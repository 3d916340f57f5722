import TopicWiki.Proofs.Text.FirstOccurrence
import TopicWiki.Textile.Segment

namespace TopicWiki.Textile

open Text

def isTagSign (c : Char) : Bool :=
  c.isAlpha || c == '/' || c == '!'

theorem startsTag_cons (c : Char) (text : List Char) :
    startsTag (c :: text) = (c == '<' && text.head?.any isTagSign) := by
  by_cases bracket : c = '<'
  · subst bracket
    cases text <;> rfl
  · have other : (c == '<') = false := beq_false_of_ne bracket
    rw [other, Bool.false_and, startsTag]
    intro sign rest same
    exact bracket (List.cons_eq_cons.mp same).1

def Plain (text : List Char) : Prop :=
  cutTag? text = none

theorem plain_nil : Plain [] :=
  rfl

theorem plain_cons_iff {c : Char} {text : List Char} :
    Plain (c :: text) ↔ startsTag (c :: text) = false ∧ Plain text := by
  unfold Plain
  rw [cutTag?]
  split
  · rename_i starts
    simp [starts]
  · rename_i starts
    simp [starts]

/-- No tag starts at the seam of two texts. -/
def Apart (front back : List Char) : Prop :=
  front.getLast? = some '<' → back.head?.any isTagSign = false

theorem apart_nil_right (front : List Char) : Apart front [] :=
  fun _ => rfl

theorem apart_of_head {back : List Char} (head : back.head?.any isTagSign = false)
    (front : List Char) : Apart front back :=
  fun _ => head

theorem Apart.of_head_eq {front back back' : List Char} (apart : Apart front back)
    (same : back'.head? = back.head?) : Apart front back' := by
  intro bracket
  rw [same]
  exact apart bracket

theorem Apart.of_append {front middle back : List Char} (apart : Apart (front ++ middle) back) :
    Apart middle back := by
  intro bracket
  apply apart
  rw [List.getLast?_append, bracket, Option.some_or]

theorem Apart.of_append_right {front middle back : List Char} (apart : Apart front (middle ++ back)) :
    Apart front middle := by
  cases middle with
  | nil => exact apart_nil_right front
  | cons c middle => exact apart

theorem plain_append_iff {front back : List Char} :
    Plain (front ++ back) ↔ Plain front ∧ Plain back ∧ Apart front back := by
  induction front with
  | nil => simp [plain_nil, Apart]
  | cons c front ih =>
    rw [List.cons_append, plain_cons_iff, plain_cons_iff, ih, startsTag_cons, startsTag_cons]
    cases front with
    | nil => by_cases bracket : c = '<' <;> simp [Apart, plain_nil, bracket, and_comm]
    | cons d front =>
      have last : (c :: d :: front).getLast? = (d :: front).getLast? := List.getLast?_cons_cons
      rw [Apart, Apart, last, List.cons_append, List.head?_cons, List.head?_cons]
      tauto

theorem Plain.of_infix {text part : List Char} (plain : Plain text) (inside : part <:+: text) :
    Plain part := by
  obtain ⟨front, back, rfl⟩ := inside
  exact (plain_append_iff.mp (plain_append_iff.mp plain).1).2.1

theorem Plain.of_prefix {text part : List Char} (plain : Plain text) (begins : part <+: text) :
    Plain part :=
  plain.of_infix begins.isInfix

theorem Plain.of_suffix {text part : List Char} (plain : Plain text) (ends : part <:+ text) :
    Plain part :=
  plain.of_infix ends.isInfix

theorem plain_of_absent {text : List Char} (absent : '<' ∉ text) : Plain text := by
  induction text with
  | nil => exact plain_nil
  | cons c text ih =>
    rw [List.mem_cons, not_or] at absent
    have other : (c == '<') = false := beq_false_of_ne (Ne.symm absent.1)
    rw [plain_cons_iff, startsTag_cons, other, Bool.false_and]
    exact ⟨rfl, ih absent.2⟩

/-- A complete tag: it starts as one and runs to the next closing bracket. -/
structure IsTag (tag : List Char) : Prop where
  starts : startsTag tag = true
  closes : ∃ inside, tag = inside ++ ['>'] ∧ '>' ∉ inside

theorem exists_of_startsTag {text : List Char} (starts : startsTag text = true) :
    ∃ sign rest, text = '<' :: sign :: rest ∧ isTagSign sign = true := by
  cases text with
  | nil => cases starts
  | cons c text =>
    rw [startsTag_cons, Bool.and_eq_true, beq_iff_eq] at starts
    obtain ⟨rfl, signed⟩ := starts
    cases text with
    | nil => cases signed
    | cons sign rest => exact ⟨sign, rest, rfl, signed⟩

theorem IsTag.head {tag : List Char} (isTag : IsTag tag) (rest : List Char) :
    (tag ++ rest).head?.any isTagSign = false := by
  obtain ⟨sign, after, rfl, -⟩ := exists_of_startsTag isTag.starts
  rfl

theorem apart_of_startsTag {text : List Char} (starts : startsTag text = true)
    (front rest : List Char) : Apart front (text ++ rest) := by
  obtain ⟨sign, after, rfl, -⟩ := exists_of_startsTag starts
  exact apart_of_head rfl front

theorem startsTag_append {text : List Char} (starts : startsTag text = true) (rest : List Char) :
    startsTag (text ++ rest) = true := by
  obtain ⟨sign, after, rfl, signed⟩ := exists_of_startsTag starts
  exact signed

theorem isTag_of_parts {inside : List Char} (starts : startsTag inside = true)
    (single : '>' ∉ inside) : IsTag (inside ++ ['>']) :=
  ⟨startsTag_append starts _, inside, rfl, single⟩

theorem cutTag?_append {run tail : List Char} (plain : Plain run) (starts : startsTag tail = true) :
    cutTag? (run ++ tail) = some (run, tail) := by
  induction run with
  | nil =>
    obtain ⟨sign, rest, rfl, -⟩ := exists_of_startsTag starts
    rw [List.nil_append, cutTag?, if_pos starts]
  | cons c run ih =>
    obtain ⟨unstarted, plainRun⟩ := plain_cons_iff.mp plain
    have unstarted' : startsTag (c :: (run ++ tail)) = false := by
      rw [startsTag_cons] at unstarted ⊢
      cases run with
      | nil =>
        obtain ⟨sign, rest, rfl, -⟩ := exists_of_startsTag starts
        exact Bool.and_false _
      | cons d run => exact unstarted
    rw [List.cons_append, cutTag?, unstarted', ih plainRun]
    rfl

theorem plain_of_cutTag? {text run tail : List Char} (found : cutTag? text = some (run, tail)) :
    Plain run ∧ startsTag tail = true := by
  induction text generalizing run with
  | nil => cases found
  | cons c text ih =>
    rw [cutTag?] at found
    split at found
    · rename_i starts
      cases found
      exact ⟨plain_nil, starts⟩
    · rename_i unstarted
      cases later : cutTag? text with
      | none => simp [later] at found
      | some parts =>
        obtain ⟨run', tail'⟩ := parts
        simp only [later, Option.map_some, Option.some.injEq, Prod.mk.injEq] at found
        obtain ⟨rfl, rfl⟩ := found
        obtain ⟨plain, starts⟩ := ih later
        refine ⟨plain_cons_iff.mpr ⟨?_, plain⟩, starts⟩
        rw [cutTag?_eq_some later, startsTag_cons] at unstarted
        rw [startsTag_cons]
        cases run' with
        | nil => exact Bool.and_false _
        | cons d run' => simpa using unstarted

theorem cut?_closing {inside : List Char} (single : '>' ∉ inside) (rest : List Char) :
    cut? ['>'] (inside ++ ['>'] ++ rest) = some (inside, rest) := by
  rw [cut?_eq_some_iff (List.cons_ne_nil _ _)]
  refine ⟨rfl, ?_⟩
  intro early
  apply single
  simpa using early.subset (List.mem_singleton_self '>')

theorem segments_plain {run : List Char} (plain : Plain run) : segments run = [.run run] := by
  rw [segments]
  split
  · rfl
  · rename_i found
    rw [plain] at found
    cases found

theorem segments_tag {run tag : List Char} (plain : Plain run) (isTag : IsTag tag)
    (rest : List Char) :
    segments (run ++ (tag ++ rest)) = .run run :: .tag tag :: segments rest := by
  obtain ⟨starts, inside, rfl, single⟩ := isTag
  have start := cutTag?_append plain (startsTag_append starts rest)
  have close := cut?_closing single rest
  rw [segments]
  split
  · rename_i unfound
    rw [start] at unfound
    cases unfound
  · rename_i found
    rw [start] at found
    cases found
    split
    · rename_i unclosed
      rw [close] at unclosed
      cases unclosed
    · rename_i closed
      rw [close] at closed
      cases closed
      rfl

theorem mapRuns_plain (f : List Char → List Char) {run : List Char} (plain : Plain run) :
    mapRuns f run = if run.isEmpty then [] else f run := by
  rw [mapRuns, segments_plain plain]
  exact List.append_nil _

theorem mapRuns_tag (f : List Char → List Char) {run tag : List Char} (plain : Plain run)
    (isTag : IsTag tag) (rest : List Char) :
    mapRuns f (run ++ (tag ++ rest)) = mapRuns f run ++ (tag ++ mapRuns f rest) := by
  rw [mapRuns_plain f plain, mapRuns, segments_tag plain isTag]
  rfl

end TopicWiki.Textile
