import Mathlib.Data.List.Sort
import TopicWiki.Proofs.Link.Scan
import TopicWiki.Proofs.Text.Trim

namespace TopicWiki.LinkStatement

open Text

/-- The first `==` begins with the last character of the first delimiter of another option. -/
def TextOverlapped (remaining : List LinkOption) (text : List Char) : Prop :=
  .text ∈ remaining ∧ ∃ option ∈ remaining, ∃ place,
    firstPlace? option text = some place ∧ firstPlace? .text text = some (place + 1)

section Found

def foundAmong (remaining : List LinkOption) (text : List Char) : List (Nat × LinkOption) :=
  (remaining.filterMap fun option =>
    (firstPlace? option text).map fun place => (place, option)).mergeSort fun a b => a.1 ≤ b.1

def ahead (distance : Nat) (places : List (Nat × LinkOption)) : List (Nat × LinkOption) :=
  places.map fun (place, option) => (place + distance, option)

theorem found_eq (text : List Char) : found text = foundAmong LinkOption.all text := by
  simp only [found, foundAmong, firstPlace?, Option.map_map]
  rfl

theorem mem_foundAmong {remaining : List LinkOption} {text : List Char} {place : Nat}
    {option : LinkOption} : (place, option) ∈ foundAmong remaining text ↔
      option ∈ remaining ∧ firstPlace? option text = some place := by
  rw [foundAmong, List.mem_mergeSort, List.mem_filterMap]
  simp

theorem mem_ahead {distance place : Nat} {option : LinkOption} {places : List (Nat × LinkOption)} :
    (place, option) ∈ ahead distance places ↔
      ∃ before, (before, option) ∈ places ∧ before + distance = place := by
  simp [ahead]

theorem foundAmong_ordered {remaining : List LinkOption} (distinct : remaining.Nodup)
    (text : List Char) : (foundAmong remaining text).Pairwise fun a b => a.1 < b.1 := by
  have sorted : (foundAmong remaining text).Pairwise fun a b => a.1 ≤ b.1 := by
    refine (List.pairwise_mergeSort ?_ ?_ _).imp of_decide_eq_true
    · intro a b c below below'
      exact decide_eq_true ((of_decide_eq_true below).trans (of_decide_eq_true below'))
    · intro a b
      simpa using Nat.le_total a.1 b.1
  have apart : (foundAmong remaining text).Nodup := by
    apply (List.mergeSort_perm _ _).nodup_iff.mpr
    refine List.Nodup.filterMap ?_ distinct
    intro option other entry found found'
    rw [Option.mem_def, Option.map_eq_some_iff] at found found'
    obtain ⟨_, _, rfl⟩ := found
    obtain ⟨_, _, same⟩ := found'
    exact (congrArg Prod.snd same).symm
  refine (sorted.and apart).imp_of_mem ?_
  rintro ⟨place, option⟩ ⟨place', option'⟩ inside inside' ⟨below, different⟩
  refine lt_of_le_of_ne below ?_
  rintro rfl
  apply different
  rw [option_eq_of_firstPlace? (mem_foundAmong.mp inside).2 (mem_foundAmong.mp inside').2]

theorem foundAmong_eq {remaining : List LinkOption} {text : List Char}
    {places : List (Nat × LinkOption)} (distinct : remaining.Nodup)
    (ordered : places.Pairwise fun a b => a.1 < b.1)
    (members : ∀ place option, (place, option) ∈ places ↔
      option ∈ remaining ∧ firstPlace? option text = some place) :
    foundAmong remaining text = places := by
  have ordered' := foundAmong_ordered distinct text
  have different : ∀ {a b : Nat × LinkOption}, a.1 < b.1 → a ≠ b := by
    rintro a b below rfl
    exact lt_irrefl _ below
  refine List.Perm.eq_of_pairwise ?_ ordered' ordered ?_
  · intro a b _ _ below above
    exact absurd above (lt_asymm below)
  · refine (List.perm_ext_iff_of_nodup (ordered'.imp different) (ordered.imp different)).mpr ?_
    rintro ⟨place, option⟩
    exact mem_foundAmong.trans (members place option).symm

theorem ahead_ordered {places : List (Nat × LinkOption)} (distance : Nat)
    (ordered : places.Pairwise fun a b => a.1 < b.1) :
    (ahead distance places).Pairwise fun a b => a.1 < b.1 := by
  refine List.pairwise_map.mpr (ordered.imp ?_)
  intro a b below
  exact Nat.add_lt_add_right below distance

theorem foundAmong_ahead {remaining : List LinkOption} (distinct : remaining.Nodup)
    {text rest : List Char} {distance : Nat} (shifted : ∀ option ∈ remaining,
      firstPlace? option text = (firstPlace? option rest).map (· + distance)) :
    foundAmong remaining text = ahead distance (foundAmong remaining rest) := by
  refine foundAmong_eq distinct (ahead_ordered distance (foundAmong_ordered distinct rest)) ?_
  intro place option
  rw [mem_ahead]
  constructor
  · rintro ⟨before, inside, rfl⟩
    obtain ⟨member, found⟩ := mem_foundAmong.mp inside
    rw [shifted option member, found]
    exact ⟨member, rfl⟩
  · rintro ⟨member, found⟩
    rw [shifted option member, Option.map_eq_some_iff] at found
    obtain ⟨before, found, next⟩ := found
    exact ⟨before, mem_foundAmong.mpr ⟨member, found⟩, next⟩

theorem foundAmong_first {remaining : List LinkOption} (distinct : remaining.Nodup)
    {text : List Char} {option : LinkOption} {place : Nat} (here : option ∈ remaining)
    (found : firstPlace? option text = some place)
    (later : ∀ other ∈ remaining.erase option, ∀ next,
      firstPlace? other text = some next → place < next) :
    foundAmong remaining text = (place, option) :: foundAmong (remaining.erase option) text := by
  have distinct' := distinct.erase option
  refine foundAmong_eq distinct (List.pairwise_cons.mpr ⟨?_, foundAmong_ordered distinct' text⟩) ?_
  · rintro ⟨next, other⟩ inside
    obtain ⟨member, found'⟩ := mem_foundAmong.mp inside
    exact later other member next found'
  · intro next other
    rw [List.mem_cons, mem_foundAmong, distinct.mem_erase_iff]
    by_cases same : other = option
    · simp [same, found, here, eq_comm]
    · simp [same]

theorem foundAmong_cons {remaining : List LinkOption} (distinct : remaining.Nodup) {c : Char}
    {rest : List Char} (nothing : ∀ option ∈ remaining, ¬ option.delimiter <+: c :: rest) :
    foundAmong remaining (c :: rest) = ahead 1 (foundAmong remaining rest) :=
  foundAmong_ahead distinct fun option member => firstPlace?_cons (nothing option member)

theorem foundAmong_behind {remaining : List LinkOption} (distinct : remaining.Nodup)
    {option : LinkOption} (taken : option ∉ remaining) {rest : List Char}
    (clear : ∀ other ∈ remaining, ¬ other.delimiter <+: '=' :: rest) :
    foundAmong remaining (option.delimiter ++ rest) = ahead 2 (foundAmong remaining rest) := by
  refine foundAmong_ahead distinct fun other member => firstPlace?_behind ?_ (clear other member)
  rintro rfl
  exact taken member

theorem foundAmong_delimiter {remaining : List LinkOption} (distinct : remaining.Nodup)
    {option : LinkOption} (here : option ∈ remaining) (rest : List Char) :
    foundAmong remaining (option.delimiter ++ rest) =
      (0, option) :: foundAmong (remaining.erase option) (option.delimiter ++ rest) := by
  have start : firstPlace? option (option.delimiter ++ rest) = some 0 :=
    firstPlace?_eq_zero_iff.mpr ⟨rest, rfl⟩
  refine foundAmong_first distinct here start ?_
  intro other member next found
  refine Nat.pos_of_ne_zero ?_
  rintro rfl
  exact (distinct.mem_erase_iff.mp member).1 (option_eq_of_firstPlace? found start)

theorem foundAmong_second {remaining : List LinkOption} (distinct : remaining.Nodup)
    {option : LinkOption} (taken : option ∉ remaining) (expected : .text ∈ remaining)
    {rest : List Char} (overlapped : LinkOption.text.delimiter <+: '=' :: rest) :
    foundAmong remaining (option.delimiter ++ rest) =
      (1, .text) :: ahead 2 (foundAmong (remaining.erase .text) rest) := by
  have different : option ≠ .text := by
    rintro rfl
    exact taken expected
  have behind : foundAmong (remaining.erase .text) (option.delimiter ++ rest) =
      ahead 2 (foundAmong (remaining.erase .text) rest) := foundAmong_behind (distinct.erase .text)
    (fun member => taken (List.mem_of_mem_erase member))
    (fun other member start => (distinct.mem_erase_iff.mp member).1 (eq_text_of_second start))
  rw [← behind]
  refine foundAmong_first distinct expected (firstPlace?_second overlapped different) ?_
  intro other member next found
  have inside := mem_foundAmong.mpr ⟨member, found⟩
  rw [behind, mem_ahead] at inside
  obtain ⟨before, -, rfl⟩ := inside
  exact Nat.le_add_left _ _

end Found

section Cut

def stop (text : List Char) : List (Nat × LinkOption) → Nat
  | (place, _) :: _ => place
  | [] => text.length

def sections (text : List Char) : List (Nat × LinkOption) → List (LinkOption × List Char)
  | [] => []
  | (place, option) :: rest =>
    (option, slice text (place + option.delimiter.length) (stop text rest)) :: sections text rest

def cutAt (text : List Char) (places : List (Nat × LinkOption)) :
    List Char × List (LinkOption × List Char) :=
  (slice text 0 (stop text places), sections text places)

theorem values_eq (text : List Char) (places : List (Nat × LinkOption)) :
    values text places =
      (sections text places).map fun (option, value) =>
        (option, (nonBlank? value).map String.ofList) := by
  induction places with
  | nil => rfl
  | cons entry rest ih =>
    cases rest <;> exact congrArg _ ih

theorem valueOf_eq (option : LinkOption) (entries : List (LinkOption × List Char)) :
    (((entries.map fun (option, value) => (option, (nonBlank? value).map String.ofList)).find?
        fun entry => entry.1 = option).map Prod.snd).join = valueOf entries option := by
  rw [List.find?_map, Option.map_map, valueOf]
  change ((entries.find? fun entry => entry.1 = option).map _).join = _
  cases entries.find? fun entry => entry.1 = option <;> rfl

theorem ofChars_eq (input : List Char) :
    ofChars input =
      ofScan (cutSigil input).1
        (cutAt (cutSigil input).2 (separate 0 (foundAmong LinkOption.all (cutSigil input).2))) := by
  simp only [ofChars, delimiters, found_eq, values_eq, valueOf_eq, ofScan, cutAt]
  cases separate 0 (foundAmong LinkOption.all (cutSigil input).2) <;> rfl

theorem stop_ahead (front rest : List Char) (places : List (Nat × LinkOption)) :
    stop (front ++ rest) (ahead front.length places) = stop rest places + front.length := by
  cases places with
  | nil => simp [ahead, stop, Nat.add_comm]
  | cons entry places => rfl

theorem slice_append (front rest : List Char) (start stop : Nat) :
    slice (front ++ rest) (start + front.length) (stop + front.length) = slice rest start stop := by
  simp [slice, List.take_append, List.drop_append]

theorem sections_ahead (front rest : List Char) (places : List (Nat × LinkOption)) :
    sections (front ++ rest) (ahead front.length places) = sections rest places := by
  induction places with
  | nil => rfl
  | cons entry places ih =>
    obtain ⟨place, option⟩ := entry
    change (option, slice (front ++ rest) (place + front.length + option.delimiter.length)
        (stop (front ++ rest) (ahead front.length places))) ::
          sections (front ++ rest) (ahead front.length places) = _
    rw [ih, stop_ahead, Nat.add_right_comm, slice_append]
    rfl

theorem cutAt_cons (c : Char) (rest : List Char) (places : List (Nat × LinkOption)) :
    cutAt (c :: rest) (ahead 1 places) = (c :: (cutAt rest places).1, (cutAt rest places).2) := by
  have sections := sections_ahead [c] rest places
  have stop := stop_ahead [c] rest places
  simp only [List.length_singleton, List.singleton_append] at sections stop
  simp [cutAt, sections, stop, slice]

theorem cutAt_delimiter (option : LinkOption) (rest : List Char)
    (places : List (Nat × LinkOption)) :
    cutAt (option.delimiter ++ rest) ((0, option) :: ahead 2 places) =
      ([], (option, (cutAt rest places).1) :: (cutAt rest places).2) := by
  have sections := sections_ahead option.delimiter rest places
  have stop := stop_ahead option.delimiter rest places
  have value := slice_append option.delimiter rest 0 (LinkStatement.stop rest places)
  rw [LinkOption.delimiter_length] at sections stop value
  simp only [cutAt, LinkStatement.sections, LinkOption.delimiter_length, sections, stop, value]
  rfl

theorem separate_ahead (free distance : Nat) (places : List (Nat × LinkOption)) :
    separate (free + distance) (ahead distance places) = ahead distance (separate free places) := by
  induction places generalizing free with
  | nil => rfl
  | cons entry places ih =>
    obtain ⟨place, option⟩ := entry
    simp only [ahead, List.map_cons, separate, Nat.add_le_add_iff_right] at ih ⊢
    split
    · rw [Nat.add_right_comm, ih]
      rfl
    · exact ih free

theorem separate_zero_ahead (distance : Nat) (places : List (Nat × LinkOption)) :
    separate 0 (ahead distance places) = ahead distance (separate 0 places) := by
  rw [← separate_ahead]
  cases places with
  | nil => rfl
  | cons entry places =>
    simp [ahead, separate]

end Cut

section Order

theorem textOverlapped_ahead_iff {remaining : List LinkOption} {text rest : List Char}
    {distance : Nat} (shifted : ∀ option ∈ remaining,
      firstPlace? option text = (firstPlace? option rest).map (· + distance)) :
    TextOverlapped remaining text ↔ TextOverlapped remaining rest := by
  refine and_congr_right fun expected => exists_congr fun option => and_congr_right fun member => ?_
  rw [shifted option member, shifted .text expected]
  constructor
  · rintro ⟨place, found, found'⟩
    obtain ⟨before, here, rfl⟩ := Option.map_eq_some_iff.mp found
    obtain ⟨before', there, next⟩ := Option.map_eq_some_iff.mp found'
    obtain rfl : before' = before + 1 := by omega
    exact ⟨before, here, there⟩
  · rintro ⟨place, found, found'⟩
    refine ⟨place + distance, by rw [found]; rfl, ?_⟩
    rw [found', Option.map_some, Nat.add_right_comm]

theorem textOverlapped_delimiter_iff {remaining : List LinkOption} (distinct : remaining.Nodup)
    {option : LinkOption} {rest : List Char}
    (clear : ∀ other ∈ remaining.erase option, ¬ other.delimiter <+: '=' :: rest) :
    TextOverlapped remaining (option.delimiter ++ rest) ↔
      TextOverlapped (remaining.erase option) rest := by
  have start : firstPlace? option (option.delimiter ++ rest) = some 0 :=
    firstPlace?_eq_zero_iff.mpr ⟨rest, rfl⟩
  have behind : ∀ other ∈ remaining.erase option,
      firstPlace? other (option.delimiter ++ rest) = (firstPlace? other rest).map (· + 2) :=
    fun other member =>
      firstPlace?_behind (distinct.mem_erase_iff.mp member).1 (clear other member)
  rw [← textOverlapped_ahead_iff behind]
  constructor
  · rintro ⟨expected, other, member, place, found, found'⟩
    have different : LinkOption.text ≠ option := by
      rintro rfl
      rw [start] at found'
      cases found'
    have expected := distinct.mem_erase_iff.mpr ⟨different, expected⟩
    refine ⟨expected, other, distinct.mem_erase_iff.mpr ⟨?_, member⟩, place, found, found'⟩
    rintro rfl
    obtain rfl : 0 = place := Option.some.inj (start.symm.trans found)
    rw [behind .text expected] at found'
    obtain ⟨before, -, next⟩ := Option.map_eq_some_iff.mp found'
    omega
  · rintro ⟨expected, other, member, places⟩
    exact ⟨List.mem_of_mem_erase expected, other, List.mem_of_mem_erase member, places⟩

theorem clear_or_overlapped (remaining : List LinkOption) (rest : List Char) :
    (∀ other ∈ remaining, ¬ other.delimiter <+: '=' :: rest) ∨
      .text ∈ remaining ∧ LinkOption.text.delimiter <+: '=' :: rest := by
  by_cases overlapped : .text ∈ remaining ∧ LinkOption.text.delimiter <+: '=' :: rest
  · exact .inr overlapped
  · refine .inl fun other member start => overlapped ?_
    obtain rfl := eq_text_of_second start
    exact ⟨member, start⟩

theorem separate_delimiter {remaining : List LinkOption} (distinct : remaining.Nodup)
    {option : LinkOption} (here : option ∈ remaining) {rest : List Char}
    (clear : ∀ other ∈ remaining.erase option, ¬ other.delimiter <+: '=' :: rest) :
    separate 0 (foundAmong remaining (option.delimiter ++ rest)) =
      (0, option) :: ahead 2 (separate 0 (foundAmong (remaining.erase option) rest)) := by
  rw [foundAmong_delimiter distinct here,
    foundAmong_behind (distinct.erase option) distinct.not_mem_erase clear, ← separate_ahead]
  simp [separate]

theorem separate_second {remaining : List LinkOption} (distinct : remaining.Nodup)
    {option : LinkOption} (here : option ∈ remaining) (expected : .text ∈ remaining.erase option)
    {rest : List Char} (overlapped : LinkOption.text.delimiter <+: '=' :: rest) :
    separate 0 (foundAmong remaining (option.delimiter ++ rest)) =
      (0, option) ::
        ahead 2 (separate 0 (foundAmong ((remaining.erase option).erase .text) rest)) := by
  rw [foundAmong_delimiter distinct here,
    foundAmong_second (distinct.erase option) distinct.not_mem_erase expected overlapped,
    ← separate_ahead]
  simp [separate]

theorem cutAt_separate_of_clear {remaining : List LinkOption} {text : List Char}
    (distinct : remaining.Nodup) (clear : ¬ TextOverlapped remaining text) :
    cutAt text (separate 0 (foundAmong remaining text)) = scan remaining text := by
  induction remaining, text using scanInduction with
  | nil remaining =>
    have none : ∀ option : LinkOption, firstPlace? option [] = none := by
      intro option
      cases option <;> rfl
    simp [foundAmong, none, separate, cutAt, slice, stop, sections, scan]
  | character remaining c rest nothing ih =>
    have shifted := fun option member => firstPlace?_cons (nothing option member)
    rw [foundAmong_cons distinct nothing, separate_zero_ahead, cutAt_cons, scan_cons nothing,
      ih distinct (mt (textOverlapped_ahead_iff shifted).mpr clear)]
  | delimiter remaining option rest here ih =>
    rcases clear_or_overlapped (remaining.erase option) rest with apart | ⟨expected, overlapped⟩
    · rw [separate_delimiter distinct here apart, cutAt_delimiter, scan_delimiter here,
        ih (distinct.erase option) (mt (textOverlapped_delimiter_iff distinct apart).mpr clear)]
    · obtain ⟨different, expected⟩ := distinct.mem_erase_iff.mp expected
      exact absurd ⟨expected, option, here, 0, firstPlace?_eq_zero_iff.mpr ⟨rest, rfl⟩,
        firstPlace?_second overlapped different.symm⟩ clear

theorem cutAt_separate_of_overlapped {remaining : List LinkOption} {text : List Char}
    (distinct : remaining.Nodup) (overlapped : TextOverlapped remaining text) :
    cutAt text (separate 0 (foundAmong remaining text)) = scan (remaining.erase .text) text := by
  induction remaining, text using scanInduction with
  | nil remaining =>
    obtain ⟨-, option, -, place, found, -⟩ := overlapped
    cases option <;> cases found
  | character remaining c rest nothing ih =>
    have shifted := fun option member => firstPlace?_cons (nothing option member)
    rw [foundAmong_cons distinct nothing, separate_zero_ahead, cutAt_cons,
      scan_cons fun option member => nothing option (List.mem_of_mem_erase member),
      ih distinct ((textOverlapped_ahead_iff shifted).mp overlapped)]
  | delimiter remaining option rest here ih =>
    have different : option ≠ .text := by
      rintro rfl
      obtain ⟨-, -, -, place, -, found⟩ := overlapped
      rw [firstPlace?_eq_zero_iff.mpr ⟨rest, rfl⟩] at found
      cases found
    have here' := (distinct.mem_erase_iff).mpr ⟨different, here⟩
    rw [scan_delimiter here', List.erase_comm]
    rcases clear_or_overlapped (remaining.erase option) rest with apart | ⟨expected, second⟩
    · rw [separate_delimiter distinct here apart, cutAt_delimiter,
        ih (distinct.erase option) ((textOverlapped_delimiter_iff distinct apart).mp overlapped)]
    · rw [separate_second distinct here expected second, cutAt_delimiter,
        cutAt_separate_of_clear ((distinct.erase option).erase .text)]
      rintro ⟨expected, -⟩
      exact (distinct.erase option).not_mem_erase expected

theorem TextOverlapped.exists_infix {remaining : List LinkOption} {text : List Char}
    (overlapped : TextOverlapped remaining text) :
    ∃ option : LinkOption, option.delimiter ++ ['='] <:+: text := by
  obtain ⟨-, option, -, place, found, found'⟩ := overlapped
  obtain ⟨⟨before, after⟩, cut, length⟩ := Option.map_eq_some_iff.mp found
  obtain ⟨⟨before', after'⟩, cut', length'⟩ := Option.map_eq_some_iff.mp found'
  obtain ⟨mark, form⟩ := option.exists_delimiter
  have whole := cut?_eq_some cut
  have whole' := cut?_eq_some cut'
  have behind : text.drop (place + 1) = '=' :: after := by
    rw [whole, form, List.append_assoc, ← length, ← List.drop_drop, List.drop_left]
    rfl
  have behind' : text.drop (place + 1) = '=' :: '=' :: after' := by
    rw [whole', List.append_assoc, ← length', List.drop_left]
    rfl
  obtain rfl : after = '=' :: after' := (List.cons.inj (behind.symm.trans behind')).2
  refine ⟨option, before, after', ?_⟩
  rw [whole]
  simp

theorem ofChars_of_clear {input : List Char}
    (clear : ¬ TextOverlapped LinkOption.all (cutSigil input).2) :
    ofChars input = ofScan (cutSigil input).1 (scan LinkOption.all (cutSigil input).2) := by
  rw [ofChars_eq, cutAt_separate_of_clear (by decide) clear]

theorem ofChars_of_overlapped {input : List Char}
    (overlapped : TextOverlapped LinkOption.all (cutSigil input).2) :
    ofChars input =
      ofScan (cutSigil input).1 (scan [.description, .className] (cutSigil input).2) := by
  rw [ofChars_eq, cutAt_separate_of_overlapped (by decide) overlapped]
  rfl

end Order

section EqualsSigns

def equalsSigns (value : Option String) : Nat :=
  (value.elim [] String.toList).count '='

theorem count_trim (text : List Char) : (trim text).count '=' = text.count '=' := by
  have blank {blanks : List Char} (all : allBlank blanks = true) : blanks.count '=' = 0 := by
    refine List.count_eq_zero.mpr fun member => ?_
    have solid : isBlank '=' = false := by decide
    rw [List.all_eq_true.mp all '=' member] at solid
    cases solid
  obtain ⟨front, same, blankFront⟩ := exists_blank_trimStart text
  obtain ⟨back, same', blankBack⟩ := exists_blank_trimEnd (trimStart text)
  calc (trim text).count '='
      = (front ++ (trim text ++ back)).count '=' := by simp [blank blankFront, blank blankBack]
    _ = text.count '=' := by rw [trim, ← same', ← same]

theorem equalsSigns_nonBlank? (text : List Char) :
    equalsSigns ((nonBlank? text).map String.ofList) = text.count '=' := by
  rw [← count_trim, nonBlank?]
  split
  · next empty =>
    rw [List.isEmpty_iff.mp empty]
    rfl
  · simp [equalsSigns]

def share (entries : List (LinkOption × List Char)) (option : LinkOption) : Nat :=
  (if option ∈ entries.map Prod.fst then option.delimiter.count '=' else 0) +
    equalsSigns (valueOf entries option)

theorem share_eq_zero {entries : List (LinkOption × List Char)} {option : LinkOption}
    (absent : option ∉ entries.map Prod.fst) : share entries option = 0 := by
  rw [share, if_neg absent, valueOf_eq_none absent]
  rfl

theorem share_cons (option other : LinkOption) (value : List Char)
    (entries : List (LinkOption × List Char)) :
    share ((option, value) :: entries) other =
      if option = other then option.delimiter.count '=' + value.count '='
      else share entries other := by
  simp only [share, valueOf_cons, List.map_cons, List.mem_cons]
  by_cases same : option = other
  · simp [same, equalsSigns_nonBlank?]
  · simp only [same, Ne.symm same, if_false, false_or]

theorem count_entries {entries : List (LinkOption × List Char)}
    (distinct : (entries.map Prod.fst).Nodup) :
    (entries.flatMap fun (option, value) => option.delimiter ++ value).count '=' =
      share entries .text + share entries .description + share entries .className := by
  induction entries with
  | nil => rfl
  | cons entry entries ih =>
    obtain ⟨option, value⟩ := entry
    rw [List.map_cons, List.nodup_cons] at distinct
    have absent := share_eq_zero distinct.1
    rw [List.flatMap_cons, List.count_append, ih distinct.2, List.count_append]
    cases option <;> simp only [share_cons, absent, reduceCtorEq, if_true, if_false] <;> omega

theorem scan_front_eq {text : List Char} (overlapped : TextOverlapped LinkOption.all text)
    {option : LinkOption} {value : List Char} {later : List (LinkOption × List Char)}
    (entries : (scan LinkOption.all text).2 = (option, value) :: later) :
    option ≠ .text ∧
      (scan LinkOption.all text).1 = (scan [.description, .className] text).1 := by
  obtain ⟨-, other, member, place, found, found'⟩ := overlapped
  obtain ⟨-, first⟩ := scan_first entries
  have front := scan_front_le member found
  have different : option ≠ .text := by
    rintro rfl
    have same := Option.some.inj (first.symm.trans found')
    omega
  refine ⟨different, ?_⟩
  have inside : option ∈ [LinkOption.description, .className] := by
    cases option <;> simp_all
  have below := scan_front_le inside first
  have above : (scan LinkOption.all text).1.length ≤
      (scan [.description, .className] text).1.length := by
    cases others : (scan [.description, .className] text).2 with
    | nil =>
      have whole := scan_source [.description, .className] text
      rw [others, List.flatMap_nil, List.append_nil] at whole
      rw [← whole]
      exact (scan_front_isPrefix _ text).length_le
    | cons entry rest =>
      exact scan_front_le (LinkOption.mem_all _) (scan_first others).2
  exact (List.prefix_of_prefix_length_le (scan_front_isPrefix _ text) (scan_front_isPrefix _ text)
    above).eq_of_length (Nat.le_antisymm above below)

theorem ofScan_ne_of_overlapped {text value : List Char}
    (overlapped : TextOverlapped LinkOption.all text)
    (taken : (.text, value) ∈ (scan LinkOption.all text).2) (asObject : Bool) :
    ofScan asObject (scan LinkOption.all text) ≠
      ofScan asObject (scan [.description, .className] text) := by
  intro same
  obtain ⟨-, -, sameText, sameDescription, sameClass⟩ := LinkStatement.mk.inj same
  have distinct := scan_options_nodup (show LinkOption.all.Nodup by decide) text
  have distinct' :=
    scan_options_nodup (show [LinkOption.description, .className].Nodup by decide) text
  obtain ⟨⟨option, first⟩, later, entries⟩ := List.exists_cons_of_ne_nil (List.ne_nil_of_mem taken)
  obtain ⟨different, front⟩ := scan_front_eq overlapped entries
  have source := (scan_source LinkOption.all text).symm.trans
    (scan_source [.description, .className] text)
  rw [← front] at source
  have signs := congrArg (List.count '=') (List.append_cancel_left source)
  rw [count_entries distinct, count_entries distinct'] at signs
  have absent : LinkOption.text ∉ (scan [.description, .className] text).2.map Prod.fst := by
    intro member
    have inside := (scan_options [.description, .className] text).subset member
    simp at inside
  have present : option ∈ (scan LinkOption.all text).2.map Prod.fst := by
    rw [entries]
    exact List.mem_cons_self
  -- The text takes two equals signs of its own, and at most one other delimiter is left for them.
  rw [share_eq_zero absent] at signs
  simp only [share, sameDescription, sameClass] at signs
  rw [if_pos (List.mem_map_of_mem (f := Prod.fst) taken)] at signs
  have single : LinkOption.description.delimiter.count '=' = 1 := rfl
  have single' : LinkOption.className.delimiter.count '=' = 1 := rfl
  have double : LinkOption.text.delimiter.count '=' = 2 := rfl
  rw [single, single', double] at signs
  cases option with
  | text => exact different rfl
  | description => rw [if_pos present] at signs; split_ifs at signs <;> omega
  | className => rw [if_pos present] at signs; split_ifs at signs <;> omega

end EqualsSigns

/-- A statement is read in strict order, but for a `==` that begins inside the delimiter of another
    option: it is passed over, and no later one is taken in its place. -/
theorem parse_eq_scanned_iff (input : String) :
    (parse input = scanned input ↔
      ¬ (TextOverlapped LinkOption.all (cutSigil input.toList).2 ∧
        ∃ value, (.text, value) ∈ (scan LinkOption.all (cutSigil input.toList).2).2)) ∧
    (TextOverlapped LinkOption.all (cutSigil input.toList).2 →
      parse input = ofScan (cutSigil input.toList).1
        (scan [.description, .className] (cutSigil input.toList).2)) := by
  refine ⟨?_, ofChars_of_overlapped⟩
  constructor
  · rintro same ⟨overlapped, value, taken⟩
    apply ofScan_ne_of_overlapped overlapped taken (cutSigil input.toList).1
    exact same.symm.trans (ofChars_of_overlapped overlapped)
  · intro apart
    by_cases overlapped : TextOverlapped LinkOption.all (cutSigil input.toList).2
    · have untaken : .text ∉ (scan LinkOption.all (cutSigil input.toList).2).2.map Prod.fst := by
        intro taken
        obtain ⟨⟨option, value⟩, member, rfl⟩ := List.mem_map.mp taken
        exact apart ⟨overlapped, value, member⟩
      have same : scan [.description, .className] (cutSigil input.toList).2 = _ :=
        scan_erase untaken
      rw [parse, ofChars_of_overlapped overlapped, same]
      rfl
    · exact ofChars_of_clear overlapped

theorem parse_eq_scanned_of_apart :
    parse "$ $c / t / u := D == T == V" = scanned "$ $c / t / u := D == T == V" ∧
      scanned "$ $c / t / u := D == T == V" =
        { asObject := true, target := .categoryTopic "c" "t", text := some "T == V",
          description := some "D", className := none } := by
  have apart : ¬ TextOverlapped LinkOption.all (cutSigil "$ $c / t / u := D == T == V".toList).2 := by
    rintro ⟨-, option, -, place, found, found'⟩
    have there : firstPlace? .text (cutSigil "$ $c / t / u := D == T == V".toList).2 = some 15 := by
      decide
    obtain rfl : 14 = place := Nat.succ.inj (Option.some.inj (there.symm.trans found'))
    revert found
    cases option <;> decide
  refine ⟨?_, by decide⟩
  exact (parse_eq_scanned_iff "$ $c / t / u := D == T == V").1.mpr fun both => apart both.1

/-- The `==` behind `:` is passed over, and with it the one that a strict reader takes. -/
theorem parse_ne_scanned_of_overlapped :
    parse "a :== b == c" =
      { asObject := false, target := .topic "a", text := none,
        description := some "= b == c", className := none } ∧
    scanned "a :== b == c" =
      { asObject := false, target := .topic "a", text := some "c",
        description := some "= b", className := none } := by
  have overlapped : TextOverlapped LinkOption.all (cutSigil "a :== b == c".toList).2 :=
    ⟨by decide, .description, by decide, 2, by decide, by decide⟩
  constructor
  · rw [parse, ofChars_of_overlapped overlapped]
    decide
  · decide

end TopicWiki.LinkStatement
