import TopicWiki.Template.Switch

namespace TopicWiki.Template.Switch

open Text

def groupSigns : List Char :=
  ['"', '\'', '(', ')', '[', ']', '\x7b', '\x7d']

def closer? : Char → Option Char
  | '(' => some ')'
  | '[' => some ']'
  | '\x7b' => some '\x7d'
  | _ => none

/-- A text that can stand between two quotes of a kind: a backslash takes the character behind it
    along, and the quote itself occurs only so. -/
inductive Quotable (quote : Char) : List Char → Prop
  | nil : Quotable quote []
  | char {c : Char} {rest : List Char} (other : c ≠ quote) (plain : c ≠ '\\')
      (behind : Quotable quote rest) : Quotable quote (c :: rest)
  | escape (c : Char) {rest : List Char} (behind : Quotable quote rest) :
      Quotable quote ('\\' :: c :: rest)

inductive Closed : List Char → Prop
  | nil : Closed []
  | char {c : Char} {rest : List Char} (plain : c ∉ groupSigns) (behind : Closed rest) :
      Closed (c :: rest)
  | quoted {quote : Char} {inside rest : List Char} (sign : quote = '"' ∨ quote = '\'')
      (quotable : Quotable quote inside) (behind : Closed rest) :
      Closed (quote :: (inside ++ quote :: rest))
  | bracketed {opener closer : Char} {inside rest : List Char}
      (pair : closer? opener = some closer) (closed : Closed inside) (behind : Closed rest) :
      Closed (opener :: (inside ++ closer :: rest))

abbrev Surroundings := List Char → List Char → Prop

def Spaced : Surroundings := fun before after =>
  before.getLast?.all isBlank = true ∧ after.head?.all isBlank = true

/-- A comma, or the word `or` where it is a keyword, outside quotes and brackets: what stands before
    it has its quotes closed and its brackets balanced. It is told by where it starts and stops. -/
inductive Divider (keyword : Surroundings) (text : List Char) : Nat × Nat → Prop
  | comma {before after : List Char} (source : text = before ++ ',' :: after)
      (outside : Closed before) : Divider keyword text (before.length, before.length + 1)
  | or {before after : List Char} (source : text = before ++ 'o' :: 'r' :: after)
      (outside : Closed before) (word : keyword before after) :
      Divider keyword text (before.length, before.length + 2)

structure Cuts (keyword : Surroundings) (text : List Char) (place : Nat)
    (cuts : List (Nat × Nat)) : Prop where
  ordered : cuts.Pairwise fun cut next => cut.2 ≤ next.1
  all : ∀ cut, cut ∈ cuts ↔ Divider keyword text cut ∧ place ≤ cut.1

def piecesBetween (text : List Char) (place : Nat) : List (Nat × Nat) → List (List Char)
  | [] => [text.drop place]
  | (start, stop) :: cuts => (text.take start).drop place :: piecesBetween text stop cuts

inductive Item : List Char → Prop
  | char {c : Char} (plain : c ∉ groupSigns) : Item [c]
  | quoted {quote : Char} {inside : List Char} (sign : quote = '"' ∨ quote = '\'')
      (quotable : Quotable quote inside) : Item (quote :: (inside ++ [quote]))
  | bracketed {opener closer : Char} {inside : List Char}
      (pair : closer? opener = some closer) (closed : Closed inside) :
      Item (opener :: (inside ++ [closer]))

theorem closer?_cases {opener closer : Char} (pair : closer? opener = some closer) :
    (opener = '(' ∧ closer = ')') ∨ (opener = '[' ∧ closer = ']') ∨
      (opener = '\x7b' ∧ closer = '\x7d') := by
  unfold closer? at pair
  split at pair <;> cases pair <;> simp

theorem opener_mem {opener closer : Char} (pair : closer? opener = some closer) :
    opener ∈ groupSigns := by
  rcases closer?_cases pair with ⟨rfl, -⟩ | ⟨rfl, -⟩ | ⟨rfl, -⟩ <;> decide

theorem closer_mem {opener closer : Char} (pair : closer? opener = some closer) :
    closer ∈ groupSigns := by
  rcases closer?_cases pair with ⟨-, rfl⟩ | ⟨-, rfl⟩ | ⟨-, rfl⟩ <;> decide

theorem quote_mem {quote : Char} (sign : quote = '"' ∨ quote = '\'') : quote ∈ groupSigns := by
  rcases sign with rfl | rfl <;> decide

theorem Closed.head_ne_closer {text : List Char} (closed : Closed text) {opener closer : Char}
    (pair : closer? opener = some closer) : text.head? ≠ some closer := by
  intro head
  cases closed with
  | nil => cases head
  | char plain behind =>
    obtain rfl := Option.some.inj head
    exact plain (closer_mem pair)
  | quoted sign quotable behind =>
    obtain rfl := Option.some.inj head
    rcases closer?_cases pair with ⟨-, rfl⟩ | ⟨-, rfl⟩ | ⟨-, rfl⟩ <;> revert sign <;> decide
  | bracketed pair' closed behind =>
    obtain rfl := Option.some.inj head
    rcases closer?_cases pair with ⟨-, rfl⟩ | ⟨-, rfl⟩ | ⟨-, rfl⟩ <;> cases pair'

theorem quote_ne_backslash {quote : Char} (sign : quote = '"' ∨ quote = '\'') : quote ≠ '\\' := by
  rcases sign with rfl | rfl <;> decide

theorem closer?_quote {quote : Char} (sign : quote = '"' ∨ quote = '\'') :
    closer? quote = none := by
  rcases sign with rfl | rfl <;> rfl

theorem Quotable.unique {quote : Char} {inside inside' rest rest' : List Char}
    (quotable : Quotable quote inside) (quotable' : Quotable quote inside') (escapes : quote ≠ '\\')
    (same : inside ++ quote :: rest = inside' ++ quote :: rest') :
    inside = inside' ∧ rest = rest' := by
  induction quotable generalizing inside' with
  | nil =>
    cases quotable' with
    | nil => exact ⟨rfl, (List.cons.inj same).2⟩
    | char other => exact absurd (List.cons.inj same).1.symm other
    | escape => exact absurd (List.cons.inj same).1 escapes
  | char other plain _ ih =>
    cases quotable' with
    | nil => exact absurd (List.cons.inj same).1 other
    | char _ _ behind' =>
      obtain ⟨rfl, tails⟩ := List.cons.inj same
      obtain ⟨rfl, rests⟩ := ih behind' tails
      exact ⟨rfl, rests⟩
    | escape => exact absurd (List.cons.inj same).1 plain
  | escape c _ ih =>
    cases quotable' with
    | nil => exact absurd (List.cons.inj same).1.symm escapes
    | char _ plain => exact absurd (List.cons.inj same).1.symm plain
    | escape c' behind' =>
      obtain ⟨rfl, tails⟩ := List.cons.inj (List.cons.inj same).2
      obtain ⟨rfl, rests⟩ := ih behind' tails
      exact ⟨rfl, rests⟩

theorem Item.ne_nil {item : List Char} (isItem : Item item) : item ≠ [] := by
  cases isItem <;> simp

theorem Item.closed_append {item rest : List Char} (isItem : Item item) (behind : Closed rest) :
    Closed (item ++ rest) := by
  cases isItem with
  | char plain => exact .char plain behind
  | quoted sign quotable => simpa using Closed.quoted sign quotable behind
  | bracketed pair closed => simpa using Closed.bracketed pair closed behind

theorem Closed.exists_item {text : List Char} (closed : Closed text) :
    text = [] ∨ ∃ item rest, text = item ++ rest ∧ Item item ∧ Closed rest := by
  cases closed with
  | nil => exact .inl rfl
  | @char c rest plain behind => exact .inr ⟨[c], rest, rfl, .char plain, behind⟩
  | @quoted quote inside rest sign quotable behind =>
    exact .inr ⟨quote :: (inside ++ [quote]), rest, by simp, .quoted sign quotable, behind⟩
  | @bracketed opener closer inside rest pair closed behind =>
    exact .inr ⟨opener :: (inside ++ [closer]), rest, by simp, .bracketed pair closed, behind⟩

/-- Texts that begin with an item begin with the same one, as long as what is bracketed in it is
    told from what follows. -/
theorem Item.unique_of_inside {item item' rest rest' : List Char} (isItem : Item item)
    (isItem' : Item item') (same : item ++ rest = item' ++ rest')
    (unique : ∀ inside inside' closer rest rest', inside.length < item.length → Closed inside →
      Closed inside' → (∃ opener, closer? opener = some closer) →
      inside ++ closer :: rest = inside' ++ closer :: rest' → inside = inside' ∧ rest = rest') :
    item = item' ∧ rest = rest' := by
  cases isItem with
  | char plain =>
    cases isItem' with
    | char =>
      obtain ⟨rfl, rests⟩ := List.cons.inj same
      exact ⟨rfl, rests⟩
    | quoted sign =>
      obtain ⟨rfl, -⟩ := List.cons.inj same
      exact absurd (quote_mem sign) plain
    | bracketed pair =>
      obtain ⟨rfl, -⟩ := List.cons.inj same
      exact absurd (opener_mem pair) plain
  | quoted sign quotable =>
    cases isItem' with
    | char plain =>
      obtain ⟨rfl, -⟩ := List.cons.inj same
      exact absurd (quote_mem sign) plain
    | quoted _ quotable' =>
      simp only [List.cons_append, List.append_assoc, List.nil_append, List.cons.injEq] at same
      obtain ⟨rfl, tails⟩ := same
      obtain ⟨rfl, rests⟩ := quotable.unique quotable' (quote_ne_backslash sign) tails
      exact ⟨rfl, rests⟩
    | bracketed pair =>
      obtain ⟨rfl, -⟩ := List.cons.inj same
      rw [closer?_quote sign] at pair
      cases pair
  | bracketed pair closed =>
    cases isItem' with
    | char plain =>
      obtain ⟨rfl, -⟩ := List.cons.inj same
      exact absurd (opener_mem pair) plain
    | quoted sign =>
      obtain ⟨rfl, -⟩ := List.cons.inj same
      rw [closer?_quote sign] at pair
      cases pair
    | bracketed pair' closed' =>
      simp only [List.cons_append, List.append_assoc, List.nil_append, List.cons.injEq] at same
      obtain ⟨rfl, tails⟩ := same
      obtain rfl := Option.some.inj (pair.symm.trans pair')
      obtain ⟨rfl, rests⟩ := unique _ _ _ _ _
        (by simp only [List.length_append, List.length_cons]; omega) closed closed' ⟨_, pair⟩ tails
      exact ⟨rfl, rests⟩

theorem Closed.unique {inside inside' rest rest' : List Char} {opener opener' closer closer' : Char}
    (closed : Closed inside) (closed' : Closed inside') (pair : closer? opener = some closer)
    (pair' : closer? opener' = some closer')
    (same : inside ++ closer :: rest = inside' ++ closer' :: rest') :
    inside = inside' ∧ rest = rest' := by
  induction size : inside.length using Nat.strongRecOn
    generalizing inside inside' rest rest' opener opener' closer closer' with
  | ind n ih =>
    rcases closed.exists_item with rfl | ⟨item, behind, rfl, isItem, closedBehind⟩
    · cases inside' with
      | nil => exact ⟨rfl, (List.cons.inj same).2⟩
      | cons c inside' =>
        obtain ⟨rfl, -⟩ := List.cons.inj same
        exact absurd rfl (closed'.head_ne_closer pair)
    · rcases closed'.exists_item with rfl | ⟨item', behind', rfl, isItem', closedBehind'⟩
      · obtain ⟨c, item, rfl⟩ := List.exists_cons_of_ne_nil isItem.ne_nil
        obtain ⟨rfl, -⟩ := List.cons.inj same
        exact absurd rfl (closed.head_ne_closer pair')
      · rw [List.append_assoc, List.append_assoc] at same
        have positive := List.length_pos_iff.mpr isItem.ne_nil
        rw [List.length_append] at size
        obtain ⟨rfl, behinds⟩ := isItem.unique_of_inside isItem' same
          fun _ _ _ _ _ shorter closed closed' ⟨_, pair⟩ same =>
            ih _ (by omega) closed closed' pair pair same rfl
        obtain ⟨rfl, rests⟩ :=
          ih behind.length (by omega) closedBehind closedBehind' pair pair' behinds rfl
        exact ⟨rfl, rests⟩

theorem Item.unique {item item' rest rest' : List Char} (isItem : Item item) (isItem' : Item item')
    (same : item ++ rest = item' ++ rest') : item = item' ∧ rest = rest' :=
  isItem.unique_of_inside isItem' same
    fun _ _ _ _ _ _ closed closed' ⟨_, pair⟩ same => closed.unique closed' pair pair same

/-- A closed beginning of a text takes its first item whole, or is empty. -/
theorem Closed.item_isPrefix {before after item rest : List Char} (closed : Closed before)
    (isItem : Item item) (same : before ++ after = item ++ rest) :
    before = [] ∨ ∃ behind, before = item ++ behind ∧ Closed behind := by
  rcases closed.exists_item with empty | ⟨item', behind, rfl, isItem', closed'⟩
  · exact .inl empty
  · rw [List.append_assoc] at same
    obtain ⟨rfl, -⟩ := isItem'.unique isItem same
    exact .inr ⟨behind, rfl, closed'⟩

theorem Closed.append {front back : List Char} (closed : Closed front) (closed' : Closed back) :
    Closed (front ++ back) := by
  induction closed with
  | nil => exact closed'
  | char plain _ ih => exact .char plain ih
  | quoted sign quotable _ ih => simpa using Closed.quoted sign quotable ih
  | bracketed pair closed _ _ ih => simpa using Closed.bracketed pair closed ih

theorem Closed.of_append {front back : List Char} (closed : Closed front)
    (whole : Closed (front ++ back)) : Closed back := by
  induction size : front.length using Nat.strongRecOn generalizing front with
  | ind n ih =>
    rcases closed.exists_item with rfl | ⟨item, rest, rfl, isItem, closed'⟩
    · exact whole
    · rw [List.append_assoc] at whole
      rcases whole.item_isPrefix isItem (List.append_nil _) with empty | ⟨behind, same, closed''⟩
      · exact absurd (List.append_eq_nil_iff.mp empty).1 isItem.ne_nil
      · rw [← List.append_cancel_left same] at closed''
        have positive := List.length_pos_iff.mpr isItem.ne_nil
        rw [List.length_append] at size
        exact ih rest.length (by omega) closed' closed'' rfl

theorem casePieces_quotable {quote : Char} {inside : List Char} (quotable : Quotable quote inside)
    (escapes : quote ≠ '\\') (before : Option Char) (depth : Int) (rest : List Char) :
    casePieces (.quoted quote) before depth (inside ++ quote :: rest) =
      (inside ++ [quote]).foldr consPiece (casePieces .plain (some quote) depth rest) := by
  induction quotable generalizing before with
  | nil => simp [casePieces, escapes]
  | char other plain _ ih => simp [casePieces, other, plain, ih]
  | escape c _ ih => simp [casePieces, ih]

theorem casePieces_quoted {quote : Char} {inside : List Char} (sign : quote = '"' ∨ quote = '\'')
    (quotable : Quotable quote inside) (before : Option Char) (depth : Int) (rest : List Char) :
    casePieces .plain before depth (quote :: (inside ++ quote :: rest)) =
      (quote :: (inside ++ [quote])).foldr consPiece
        (casePieces .plain (some quote) depth rest) := by
  rw [casePieces, if_pos sign, casePieces_quotable quotable (quote_ne_backslash sign)]
  rfl

theorem casePieces_opener {opener closer : Char} (pair : closer? opener = some closer)
    (before : Option Char) (depth : Int) (rest : List Char) :
    casePieces .plain before depth (opener :: rest) =
      consPiece opener (casePieces .plain (some opener) (depth + 1) rest) := by
  rcases closer?_cases pair with ⟨rfl, -⟩ | ⟨rfl, -⟩ | ⟨rfl, -⟩ <;> simp [casePieces]

theorem casePieces_closer {opener closer : Char} (pair : closer? opener = some closer)
    (before : Option Char) (depth : Int) (rest : List Char) :
    casePieces .plain before depth (closer :: rest) =
      consPiece closer (casePieces .plain (some closer) (depth - 1) rest) := by
  rcases closer?_cases pair with ⟨-, rfl⟩ | ⟨-, rfl⟩ | ⟨-, rfl⟩ <;> simp [casePieces]

theorem casePieces_plain {c : Char} (plain : c ∉ groupSigns) {before : Option Char} {depth : Int}
    {rest : List Char} (noComma : ¬ (c = ',' ∧ depth = 0))
    (noOr : ¬ (c = 'o' ∧ depth = 0 ∧ before.all isBlank ∧ endsOr rest)) :
    casePieces .plain before depth (c :: rest) =
      consPiece c (casePieces .plain (some c) depth rest) := by
  simp only [groupSigns, List.mem_cons, List.not_mem_nil, or_false, not_or] at plain
  rw [casePieces, if_neg (by simp [plain]), if_neg (by simp [plain]), if_neg (by simp [plain]),
    if_neg noComma, if_neg noOr]

theorem casePieces_closed {inside : List Char} (closed : Closed inside) {depth : Int}
    (deep : 0 < depth) (before : Option Char) (rest : List Char) :
    casePieces .plain before depth (inside ++ rest) =
      inside.foldr consPiece (casePieces .plain (inside.getLast?.or before) depth rest) := by
  induction closed generalizing before depth rest with
  | nil => simp
  | char plain _ ih =>
    rw [List.cons_append, casePieces_plain plain (by omega) (by omega), ih deep]
    simp [List.getLast?_cons]
  | quoted sign quotable _ ih =>
    rw [List.cons_append, List.append_assoc, List.cons_append, casePieces_quoted sign quotable,
      ih deep]
    simp [List.getLast?_cons, List.getLast?_append]
  | bracketed pair _ _ ihInside ih =>
    rw [List.cons_append, List.append_assoc, List.cons_append, casePieces_opener pair,
      ihInside (by omega), casePieces_closer pair, Int.add_sub_cancel, ih deep]
    simp [List.getLast?_cons, List.getLast?_append]

theorem foldr_consPiece (item piece : List Char) (pieces : List (List Char)) :
    item.foldr consPiece (piece :: pieces) = (item ++ piece) :: pieces := by
  induction item with
  | nil => rfl
  | cons c item ih => simp [ih, consPiece]

theorem piecesBetween_prepend {text front item rest : List Char} {cuts : List (Nat × Nat)}
    (source : text = front ++ (item ++ rest))
    (later : ∀ cut ∈ cuts, (front ++ item).length ≤ cut.1) :
    piecesBetween text front.length cuts =
      item.foldr consPiece (piecesBetween text (front ++ item).length cuts) := by
  cases cuts with
  | nil => simp [piecesBetween, foldr_consPiece, source]
  | cons cut cuts =>
    obtain ⟨start, stop⟩ := cut
    have behind := later _ List.mem_cons_self
    simp only [List.length_append] at behind
    obtain ⟨more, rfl⟩ := Nat.exists_eq_add_of_le behind
    have taken : text.take (front.length + item.length + more) =
        front ++ (item ++ rest.take more) := by
      rw [source, Nat.add_assoc, List.take_length_add_append, List.take_length_add_append]
    rw [piecesBetween, piecesBetween, taken, foldr_consPiece, List.drop_left, ← List.append_assoc,
      List.drop_left]

section

variable {keyword : Surroundings} {text front item rest : List Char} {cuts : List (Nat × Nat)}

theorem Divider.exists_before {cut : Nat × Nat} (divider : Divider keyword text cut) :
    ∃ before after, text = before ++ after ∧ Closed before ∧ cut.1 = before.length ∧
      cut.1 < text.length := by
  cases divider with
  | comma source outside => exact ⟨_, _, source, outside, rfl, by simp [source]⟩
  | or source outside => exact ⟨_, _, source, outside, rfl, by simp [source]⟩

theorem Divider.skips_item {cut : Nat × Nat} (divider : Divider keyword text cut)
    (source : text = front ++ (item ++ rest)) (closed : Closed front) (isItem : Item item)
    (behind : front.length ≤ cut.1) :
    cut.1 = front.length ∨ (front ++ item).length ≤ cut.1 := by
  obtain ⟨before, after, source', closed', place, -⟩ := divider.exists_before
  rw [place] at behind ⊢
  have same : before ++ after = front ++ (item ++ rest) := source'.symm.trans source
  obtain ⟨inner, rfl⟩ : front <+: before :=
    List.prefix_of_prefix_length_le ⟨_, same.symm⟩ (List.prefix_append _ _) behind
  rw [List.append_assoc] at same
  have closedInner := closed.of_append closed'
  rcases closedInner.item_isPrefix isItem (List.append_cancel_left same) with rfl | ⟨more, rfl, -⟩
  · exact .inl (by simp)
  · exact .inr (by simp)

theorem divider_here_iff (source : text = front ++ rest) (closed : Closed front) {stop : Nat} :
    Divider keyword text (front.length, stop) ↔
      (∃ after, rest = ',' :: after ∧ stop = front.length + 1) ∨
        ∃ after, rest = 'o' :: 'r' :: after ∧ keyword front after ∧ stop = front.length + 2 := by
  constructor
  · intro divider
    generalize placed : (front.length, stop) = cut at divider
    cases divider with
    | comma source' outside =>
      obtain ⟨place, rfl⟩ := Prod.mk.inj placed
      obtain ⟨rfl, rfl⟩ := List.append_inj (source.symm.trans source') place
      exact .inl ⟨_, rfl, rfl⟩
    | or source' outside word =>
      obtain ⟨place, rfl⟩ := Prod.mk.inj placed
      obtain ⟨rfl, rfl⟩ := List.append_inj (source.symm.trans source') place
      exact .inr ⟨_, rfl, word, rfl⟩
  · rintro (⟨after, rfl, rfl⟩ | ⟨after, rfl, word, rfl⟩)
    · exact .comma source closed
    · exact .or source closed word

theorem Cuts.skip (cuts_ : Cuts keyword text (front ++ item).length cuts)
    (source : text = front ++ (item ++ rest)) (closed : Closed front) (isItem : Item item)
    (none : ∀ stop, ¬ Divider keyword text (front.length, stop)) :
    Cuts keyword text front.length cuts := by
  refine ⟨cuts_.ordered, fun cut => ?_⟩
  rw [cuts_.all]
  constructor
  · rintro ⟨divider, behind⟩
    rw [List.length_append] at behind
    exact ⟨divider, by omega⟩
  · rintro ⟨divider, behind⟩
    refine ⟨divider, ?_⟩
    rcases divider.skips_item source closed isItem behind with here | later
    · exact absurd (here ▸ divider) (none cut.2)
    · exact later

theorem Cuts.cut {stop : Nat} (cuts_ : Cuts keyword text (front ++ item).length cuts)
    (source : text = front ++ (item ++ rest)) (closed : Closed front) (isItem : Item item)
    (divider : Divider keyword text (front.length, stop))
    (only : ∀ stop', Divider keyword text (front.length, stop') → stop' = stop)
    (apart : ∀ cut ∈ cuts, stop ≤ cut.1) :
    Cuts keyword text front.length ((front.length, stop) :: cuts) := by
  refine ⟨List.pairwise_cons.mpr ⟨apart, cuts_.ordered⟩, fun cut => ?_⟩
  rw [List.mem_cons, cuts_.all]
  constructor
  · rintro (rfl | ⟨divider', behind⟩)
    · exact ⟨divider, Nat.le_refl _⟩
    · rw [List.length_append] at behind
      exact ⟨divider', by omega⟩
  · rintro ⟨divider', behind⟩
    obtain ⟨start, stop'⟩ := cut
    rcases divider'.skips_item source closed isItem behind with here | later
    · simp only at here
      subst here
      rw [only stop' divider']
      exact .inl rfl
    · exact .inr ⟨divider', later⟩

end

theorem endsOr_iff {rest : List Char} :
    endsOr rest = true ↔ ∃ after, rest = 'r' :: after ∧ after.head?.all isBlank = true := by
  unfold endsOr
  split
  · simp
  · rename_i other
    refine ⟨fun impossible => absurd impossible Bool.false_ne_true, ?_⟩
    rintro ⟨after, rfl, -⟩
    exact absurd rfl (other after)

def CutsBehind (text front rest : List Char) : Prop :=
  ∃ cuts, Cuts Spaced text front.length cuts ∧
    casePieces .plain front.getLast? 0 rest = piecesBetween text front.length cuts

section

variable {text front rest : List Char}

theorem CutsBehind.skip {item : List Char} (later : CutsBehind text (front ++ item) rest)
    (source : text = front ++ (item ++ rest)) (closed : Closed front) (isItem : Item item)
    (none : ∀ stop, ¬ Divider Spaced text (front.length, stop))
    (taken : casePieces .plain front.getLast? 0 (item ++ rest) =
      item.foldr consPiece (casePieces .plain (front ++ item).getLast? 0 rest)) :
    CutsBehind text front (item ++ rest) := by
  obtain ⟨cuts, cuts_, pieces⟩ := later
  refine ⟨cuts, cuts_.skip source closed isItem none, ?_⟩
  rw [taken, pieces, piecesBetween_prepend source fun cut member => ((cuts_.all cut).mp member).2]

theorem CutsBehind.comma (later : CutsBehind text (front ++ [',']) rest)
    (source : text = front ++ ',' :: rest) (closed : Closed front) :
    CutsBehind text front (',' :: rest) := by
  obtain ⟨cuts, cuts_, pieces⟩ := later
  have stops : (front ++ [',']).length = front.length + 1 := by simp
  have here : Divider Spaced text (front.length, front.length + 1) := .comma source closed
  have only : ∀ stop, Divider Spaced text (front.length, stop) → stop = front.length + 1 := by
    intro stop divider
    rcases (divider_here_iff source closed).mp divider with ⟨_, _, same⟩ | ⟨_, impossible, _⟩
    · exact same
    · cases impossible
  have apart : ∀ cut ∈ cuts, front.length + 1 ≤ cut.1 := fun cut member =>
    stops ▸ ((cuts_.all cut).mp member).2
  refine ⟨_, cuts_.cut source closed (.char (by decide)) here only apart, ?_⟩
  rw [List.getLast?_concat, stops] at pieces
  rw [piecesBetween, ← pieces, source, List.take_left, List.drop_length]
  simp [casePieces]

theorem CutsBehind.or (later : CutsBehind text (front ++ ['o', 'r']) rest)
    (source : text = front ++ 'o' :: 'r' :: rest) (closed : Closed front)
    (word : Spaced front rest) : CutsBehind text front ('o' :: 'r' :: rest) := by
  obtain ⟨cuts, cuts_, pieces⟩ := later
  have stops : (front ++ ['o', 'r']).length = front.length + 2 := by simp
  have here : Divider Spaced text (front.length, front.length + 2) := .or source closed word
  have only : ∀ stop, Divider Spaced text (front.length, stop) → stop = front.length + 2 := by
    intro stop divider
    rcases (divider_here_iff source closed).mp divider with ⟨_, impossible, _⟩ | ⟨_, _, _, same⟩
    · cases impossible
    · exact same
  have apart : ∀ cut ∈ cuts, front.length + 2 ≤ cut.1 := fun cut member =>
    stops ▸ ((cuts_.all cut).mp member).2
  -- The second letter of the word begins no divider.
  have source' : text = (front ++ ['o']) ++ (['r'] ++ rest) := by simp [source]
  have closed' : Closed (front ++ ['o']) := closed.append (.char (by decide) .nil)
  have inner : Cuts Spaced text (front ++ ['o']).length cuts := by
    refine Cuts.skip (by simpa using cuts_) source' closed' (.char (by decide)) ?_
    intro stop divider
    rcases (divider_here_iff source' closed').mp divider with
      ⟨_, impossible, _⟩ | ⟨_, impossible, _⟩
    · cases impossible
    · cases impossible
  refine ⟨_, inner.cut source closed (.char (by decide)) here only apart, ?_⟩
  have last : (front ++ ['o', 'r']).getLast? = some 'r' := by simp
  rw [last, stops] at pieces
  rw [piecesBetween, ← pieces, source, List.take_left, List.drop_length]
  have ends : endsOr ('r' :: rest) = true := word.2
  simp [casePieces, word.1, ends]

end

theorem cutsBehind_nil {text front : List Char} (source : text = front) :
    CutsBehind text front [] := by
  refine ⟨[], ⟨List.Pairwise.nil, fun cut => ?_⟩, ?_⟩
  · simp only [List.not_mem_nil, false_iff, not_and]
    intro divider
    obtain ⟨_, _, _, _, _, inside⟩ := divider.exists_before
    rw [source] at inside
    omega
  · simp [casePieces, piecesBetween, source]

theorem not_divider_of_plain {text front rest : List Char} {c : Char}
    (source : text = front ++ c :: rest) (closed : Closed front) (noComma : c ≠ ',')
    (noOr : ¬ (c = 'o' ∧ front.getLast?.all isBlank = true ∧ endsOr rest = true)) (stop : Nat) :
    ¬ Divider Spaced text (front.length, stop) := by
  intro divider
  rcases (divider_here_iff source closed).mp divider with ⟨_, here, _⟩ | ⟨after, here, word, _⟩
  · exact noComma (List.cons.inj here).1
  · obtain ⟨rfl, rfl⟩ := List.cons.inj here
    exact noOr ⟨rfl, word.1, endsOr_iff.mpr ⟨after, rfl, word.2⟩⟩

theorem not_divider_of_sign {text front rest : List Char} {c : Char}
    (source : text = front ++ c :: rest) (closed : Closed front) (sign : c ∈ groupSigns)
    (stop : Nat) : ¬ Divider Spaced text (front.length, stop) := by
  have noComma : c ≠ ',' := by
    rintro rfl
    revert sign
    decide
  refine not_divider_of_plain source closed noComma ?_ stop
  rintro ⟨rfl, -⟩
  revert sign
  decide

theorem getLast?_group (front inside : List Char) (first last : Char) :
    (front ++ first :: (inside ++ [last])).getLast? = some last := by
  rw [← List.cons_append, ← List.append_assoc, List.getLast?_concat]

theorem cutsBehind_closed {text front rest : List Char} (source : text = front ++ rest)
    (closed : Closed front) (closed' : Closed rest) : CutsBehind text front rest := by
  induction size : rest.length using Nat.strongRecOn generalizing front rest with
  | ind n ih =>
    have behind {item after : List Char} (same : rest = item ++ after) (nonempty : item ≠ [])
        (closedItem : Closed item) (closedAfter : Closed after) :
        CutsBehind text (front ++ item) after := by
      have positive := List.length_pos_iff.mpr nonempty
      rw [same, List.length_append] at size
      refine ih after.length (by omega) ?_ (closed.append closedItem) closedAfter rfl
      rw [source, same, List.append_assoc]
    cases closed' with
    | nil => exact cutsBehind_nil (source.trans (List.append_nil front))
    | @char c rest plain closedRest =>
      have single : Closed [c] := .char plain .nil
      by_cases comma : c = ','
      · subst comma
        exact (behind rfl (by simp) single closedRest).comma source closed
      by_cases word : c = 'o' ∧ front.getLast?.all isBlank = true ∧ endsOr rest = true
      · obtain ⟨rfl, before, ends⟩ := word
        obtain ⟨after, rfl, apart⟩ := endsOr_iff.mp ends
        have letter : Closed ['r'] := .char (by decide) .nil
        have closedAfter : Closed after := letter.of_append closedRest
        have closedWord : Closed ['o', 'r'] := .char plain (.char (by decide) .nil)
        exact (behind rfl (by simp) closedWord closedAfter).or source closed ⟨before, apart⟩
      · refine (behind rfl (by simp) single closedRest).skip source closed (.char plain)
          (not_divider_of_plain source closed comma word) ?_
        rw [List.getLast?_concat]
        exact casePieces_plain plain (fun here => comma here.1) fun here =>
          word ⟨here.1, here.2.2⟩
    | @quoted quote inside rest sign quotable closedRest =>
      have isItem : Item (quote :: (inside ++ [quote])) := .quoted sign quotable
      have parts : quote :: (inside ++ quote :: rest) = quote :: (inside ++ [quote]) ++ rest := by
        simp
      rw [parts] at behind source ⊢
      have closedItem := isItem.closed_append .nil
      rw [List.append_nil] at closedItem
      refine (behind rfl isItem.ne_nil closedItem closedRest).skip source closed isItem
        (not_divider_of_sign source closed (quote_mem sign)) ?_
      rw [← parts, casePieces_quoted sign quotable, getLast?_group]
    | @bracketed opener closer inside rest pair closedInside closedRest =>
      have isItem : Item (opener :: (inside ++ [closer])) := .bracketed pair closedInside
      have parts : opener :: (inside ++ closer :: rest) =
          opener :: (inside ++ [closer]) ++ rest := by
        simp
      rw [parts] at behind source ⊢
      have closedItem := isItem.closed_append .nil
      rw [List.append_nil] at closedItem
      refine (behind rfl isItem.ne_nil closedItem closedRest).skip source closed isItem
        (not_divider_of_sign source closed (opener_mem pair)) ?_
      rw [← parts, casePieces_opener pair, casePieces_closed closedInside (by decide),
        casePieces_closer pair, getLast?_group]
      simp

/-- The values of a case are the pieces of its arguments between all commas and keywords `or`
    outside quotes and brackets, trimmed, without those that are blank. -/
theorem caseValues_cut_at_dividers {arguments : List Char} (closed : Closed arguments) :
    ∃ cuts, Cuts Spaced arguments 0 cuts ∧
      caseValues arguments = (piecesBetween arguments 0 cuts).filterMap nonBlank? := by
  obtain ⟨cuts, cuts_, pieces⟩ := cutsBehind_closed (List.nil_append arguments).symm .nil closed
  exact ⟨cuts, cuts_, congrArg (List.filterMap nonBlank?) pieces⟩

theorem closed_of_plain {text : List Char} (plain : text.all (!groupSigns.contains ·) = true) :
    Closed text := by
  induction text with
  | nil => exact .nil
  | cons c text ih =>
    rw [List.all_cons, Bool.and_eq_true, Bool.not_eq_true'] at plain
    exact .char (by simpa using plain.1) (ih plain.2)

theorem caseValues_cut_at_dividers_around_groups :
    Closed "f(1 or [2]), 'or \\', ' or order".toList ∧
      caseValues "f(1 or [2]), 'or \\', ' or order".toList =
        ["f(1 or [2])".toList, "'or \\', '".toList, "order".toList] ∧
      ∃ cuts, Cuts Spaced "f(1 or [2]), 'or \\', ' or order".toList 0 cuts ∧
        caseValues "f(1 or [2]), 'or \\', ' or order".toList =
          (piecesBetween "f(1 or [2]), 'or \\', ' or order".toList 0 cuts).filterMap nonBlank? := by
  have closed : Closed "f(1 or [2]), 'or \\', ' or order".toList := by
    have list : Closed ('[' :: ("2".toList ++ ']' :: [])) :=
      .bracketed rfl (closed_of_plain (by decide)) .nil
    have call : Closed ('(' :: ("1 or [2]".toList ++ ')' :: ", ".toList)) :=
      .bracketed rfl ((closed_of_plain (by decide) : Closed "1 or ".toList).append list)
        (closed_of_plain (by decide))
    have inside : Quotable '\'' ['o', 'r', ' ', '\\', '\'', ',', ' '] :=
      .char (by decide) (by decide) (.char (by decide) (by decide) (.char (by decide) (by decide)
        (.escape '\'' (.char (by decide) (by decide) (.char (by decide) (by decide) .nil)))))
    have string : Closed ('\'' :: ("or \\', ".toList ++ '\'' :: " or order".toList)) :=
      .quoted (.inr rfl) inside (closed_of_plain (by decide))
    exact (Closed.char (by decide) call).append string
  exact ⟨closed, by decide, caseValues_cut_at_dividers closed⟩

section

variable {keyword : Surroundings} {text : List Char} {place : Nat} {cuts cuts' : List (Nat × Nat)}

theorem Cuts.starts_ordered (cuts_ : Cuts keyword text place cuts) :
    cuts.Pairwise fun cut next => cut.1 < next.1 := by
  refine cuts_.ordered.imp_of_mem fun {cut next} member _ ordered => ?_
  have proper : cut.1 < cut.2 := by
    cases ((cuts_.all cut).mp member).1 <;> simp
  exact Nat.lt_of_lt_of_le proper ordered

theorem Cuts.unique (cuts_ : Cuts keyword text place cuts)
    (cuts'_ : Cuts keyword text place cuts') : cuts = cuts' := by
  have distinct {cuts : List (Nat × Nat)} (cuts_ : Cuts keyword text place cuts) : cuts.Nodup :=
    cuts_.starts_ordered.imp fun {cut next} less same => by simp [same] at less
  have same : cuts.Perm cuts' := by
    rw [List.perm_ext_iff_of_nodup (distinct cuts_) (distinct cuts'_)]
    intro cut
    rw [cuts_.all, cuts'_.all]
  exact same.eq_of_pairwise (fun _ _ _ _ less less' => absurd less' (Nat.lt_asymm less))
    cuts_.starts_ordered cuts'_.starts_ordered

end

def Whole : Surroundings := fun before after =>
  before.getLast?.any (fun c => c.isAlphanum || c = '_') = false ∧
    after.head?.any (fun c => c.isAlphanum || c = '_') = false

/-- A whole word is not enough: between two quotes the word `or` separates nothing. -/
theorem caseValues_joins_crowded_or :
    Closed "'a'or'b'".toList ∧ Cuts Whole "'a'or'b'".toList 0 [(3, 5)] ∧
      ¬ ∃ cuts, Cuts Whole "'a'or'b'".toList 0 cuts ∧
        caseValues "'a'or'b'".toList =
          (piecesBetween "'a'or'b'".toList 0 cuts).filterMap nonBlank? := by
  have quoted (c : Char) (plain : c ≠ '\'' ∧ c ≠ '\\') {rest : List Char} (closed : Closed rest) :
      Closed ('\'' :: ([c] ++ '\'' :: rest)) :=
    .quoted (.inr rfl) (.char plain.1 plain.2 .nil) closed
  have front : Closed "'a'".toList := quoted 'a' (by decide) .nil
  have cuts : Cuts Whole "'a'or'b'".toList 0 [(3, 5)] := by
    refine ⟨List.pairwise_singleton _ _, fun cut => ?_⟩
    rw [List.mem_singleton]
    constructor
    · rintro rfl
      have divider : Divider Whole ("'a'".toList ++ 'o' :: 'r' :: "'b'".toList) (3, 5) :=
        .or rfl front ⟨rfl, rfl⟩
      exact ⟨divider, Nat.zero_le _⟩
    · rintro ⟨divider, -⟩
      cases divider with
      | @comma before after source =>
        have member : ',' ∈ "'a'or'b'".toList := by simp [source]
        exact absurd member (by decide)
      | @or before after source =>
        have here : "'a'or'b'".toList[before.length]? = some 'o' := by simp [source]
        have bound : before.length < 8 := by
          have size := congrArg List.length source
          simp at size
          omega
        have place : ∀ start < 8, "'a'or'b'".toList[start]? = some 'o' → start = 3 := by decide
        rw [place _ bound here]
  refine ⟨quoted 'a' (by decide) (.char (by decide) (.char (by decide)
    (quoted 'b' (by decide) .nil))), cuts, ?_⟩
  rintro ⟨cuts', cuts'_, values⟩
  rw [cuts'_.unique cuts] at values
  revert values
  decide

end TopicWiki.Template.Switch
