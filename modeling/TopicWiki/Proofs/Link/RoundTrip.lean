import Mathlib.Data.List.Infix
import TopicWiki.Proofs.Link.StrictOrder
import TopicWiki.Proofs.Text.Lines

namespace TopicWiki

open Text

def LinkTarget.path : LinkTarget → List Char
  | .index => ['/']
  | .topic ident => ident.toList
  | .categoryTopic category ident => category.toList ++ ['/'] ++ ident.toList
  | .invalid _ => []

namespace LinkStatement

def value (statement : LinkStatement) : LinkOption → Option String
  | .text => statement.text
  | .description => statement.description
  | .className => statement.className

def printOption (statement : LinkStatement) (option : LinkOption) : List Char :=
  match statement.value option with
  | some value => ' ' :: (option.delimiter ++ ' ' :: value.toList)
  | none => []

def print (statement : LinkStatement) (order : List LinkOption) : String :=
  String.ofList ((if statement.asObject then ['$'] else []) ++ statement.target.path ++
    order.flatMap statement.printOption)

def Plain (text : List Char) : Prop :=
  ∀ option : LinkOption, ¬ option.delimiter <:+: text

instance (text : List Char) : Decidable (Plain text) :=
  decidable_of_iff (∀ option ∈ LinkOption.all, ¬ option.delimiter <:+: text)
    ⟨fun plain option => plain option option.mem_all, fun plain option _ => plain option⟩

def Word (s : String) : Prop :=
  Trimmed s.toList ∧ Plain s.toList

instance (s : String) : Decidable (Word s) :=
  inferInstanceAs (Decidable (_ ∧ _))

def Ident (s : String) : Prop :=
  Word s ∧ '/' ∉ s.toList

instance (s : String) : Decidable (Ident s) :=
  inferInstanceAs (Decidable (_ ∧ _))

def PrintableTarget : LinkTarget → Prop
  | .index => True
  | .topic ident => Ident ident ∧ ident.toList.head? ≠ some '$'
  | .categoryTopic category ident =>
    Ident category ∧ Ident ident ∧ category.toList.head? ≠ some '$'
  | .invalid _ => False

/-- A statement that has a printed form: it points somewhere, no delimiter is found in its parts,
    and its first ident does not begin like a sigil. -/
structure Printable (statement : LinkStatement) : Prop where
  target : PrintableTarget statement.target
  options : ∀ option value, statement.value option = some value → Word value

section Pieces

theorem isPrefix_of_isPrefix_cons (front : List Char) {pattern back : List Char} {sep : Char}
    (apart : sep ∉ pattern) (start : pattern <+: front ++ sep :: back) : pattern <+: front := by
  rcases List.prefix_or_prefix_of_prefix start (List.prefix_append front _) with short | long
  · exact short
  · obtain ⟨more, rfl⟩ := long
    rw [List.prefix_append_right_inj] at start
    cases more with
    | nil => simp only [List.append_nil, List.prefix_rfl]
    | cons c more =>
      obtain rfl := (List.cons_prefix_cons.mp start).1
      simp at apart

theorem infix_of_infix_cons (front : List Char) {pattern back : List Char} {sep : Char}
    (apart : sep ∉ pattern) (inside : pattern <:+: front ++ sep :: back) :
    pattern <:+: front ∨ pattern <:+: back := by
  induction front with
  | nil =>
    rcases List.infix_cons_iff.mp inside with start | later
    · exact .inl (isPrefix_of_isPrefix_cons [] apart start).isInfix
    · exact .inr later
  | cons c front ih =>
    rcases List.infix_cons_iff.mp inside with start | later
    · exact .inl (isPrefix_of_isPrefix_cons (c :: front) apart start).isInfix
    · exact (ih later).imp_left fun inside => inside.trans (List.suffix_cons c front).isInfix

theorem space_not_mem_delimiter (option : LinkOption) : ' ' ∉ option.delimiter := by
  cases option <;> decide

theorem Plain.nil : Plain [] := by
  intro option inside
  exact option.delimiter_ne_nil (List.infix_nil.mp inside)

theorem Plain.append {front back : List Char} (plain : Plain front) (plain' : Plain back) :
    Plain (front ++ ['/'] ++ back) := by
  intro option inside
  have apart : '/' ∉ option.delimiter := by
    cases option <;> decide
  rw [List.append_assoc, List.singleton_append] at inside
  exact (infix_of_infix_cons _ apart inside).elim (plain option) (plain' option)

theorem Plain.space {text : List Char} (plain : Plain text) : Plain (' ' :: text) := by
  intro option inside
  exact (infix_of_infix_cons [] (space_not_mem_delimiter option) inside).elim
    (Plain.nil option) (plain option)

theorem scan_of_plain {text : List Char} (plain : Plain text) (remaining : List LinkOption) :
    scan remaining text = (text, []) := by
  induction text with
  | nil => rfl
  | cons c text ih =>
    rw [scan_cons fun option _ start => plain option start.isInfix,
      ih fun option inside => plain option (inside.trans (List.suffix_cons c text).isInfix)]

theorem scan_plain {front : List Char} (plain : Plain front) {remaining : List LinkOption}
    {option : LinkOption} (here : option ∈ remaining) (rest : List Char) :
    scan remaining (front ++ ' ' :: (option.delimiter ++ rest)) =
      (front ++ [' '], (option, (scan (remaining.erase option) rest).1) ::
        (scan (remaining.erase option) rest).2) := by
  induction front with
  | nil =>
    rw [List.nil_append, scan_cons, scan_delimiter here]
    · rfl
    · intro other _ start
      have empty := isPrefix_of_isPrefix_cons [] (space_not_mem_delimiter other) start
      exact other.delimiter_ne_nil (List.prefix_nil.mp empty)
  | cons c front ih =>
    rw [List.cons_append, scan_cons,
      ih fun option inside => plain option (inside.trans (List.suffix_cons c front).isInfix)]
    · rfl
    · intro other _ start
      exact plain other (isPrefix_of_isPrefix_cons _ (space_not_mem_delimiter other) start).isInfix

theorem scan_printed {statement : LinkStatement} (printable : statement.Printable)
    {order remaining : List LinkOption} (distinct : order.Nodup) (expected : order ⊆ remaining)
    {front : List Char} (plain : Plain front) :
    ∃ blank, allBlank blank = true ∧
      (scan remaining (front ++ order.flatMap statement.printOption)).1 = front ++ blank ∧
      ∀ option, valueOf (scan remaining (front ++ order.flatMap statement.printOption)).2 option =
        if option ∈ order then statement.value option else none := by
  induction order generalizing front remaining with
  | nil =>
    rw [List.flatMap_nil, List.append_nil, scan_of_plain plain]
    exact ⟨[], rfl, (List.append_nil front).symm, fun option => rfl⟩
  | cons option order ih =>
    rw [List.nodup_cons] at distinct
    rw [List.cons_subset] at expected
    rw [List.flatMap_cons, printOption]
    cases present : statement.value option with
    | none =>
      obtain ⟨blank, isBlank, path, values⟩ := ih distinct.2 expected.2 plain
      refine ⟨blank, isBlank, path, fun other => (values other).trans ?_⟩
      by_cases same : other = option
      · simp [same, present]
      · simp [same]
    | some value =>
      have word := printable.options option value present
      have kept : order ⊆ remaining.erase option := by
        intro other member
        refine (List.mem_erase_of_ne ?_).mpr (expected.2 member)
        rintro rfl
        exact distinct.1 member
      obtain ⟨blank, isBlank, path, values⟩ := ih distinct.2 kept word.2.space
      simp only [List.cons_append, List.append_assoc] at path values ⊢
      rw [scan_plain plain expected.1]
      refine ⟨[' '], rfl, rfl, fun other => ?_⟩
      rw [valueOf_cons, path]
      by_cases same : option = other
      · subst same
        rw [if_pos rfl, if_pos List.mem_cons_self, present,
          ← List.singleton_append, ← List.append_assoc, word.1.nonBlank? rfl isBlank,
          Option.map_some, String.ofList_toList]
      · rw [if_neg same, values]
        simp [Ne.symm same]

theorem plain_triple {statement : LinkStatement} (printable : statement.Printable)
    {front : List Char} (plain : Plain front) (order : List LinkOption) (option : LinkOption) :
    ¬ option.delimiter ++ ['='] <:+: front ++ order.flatMap statement.printOption := by
  have solid : ' ' ∉ option.delimiter ++ ['='] := by
    cases option <;> decide
  have whole {text : List Char} (plain : Plain text) : ¬ option.delimiter ++ ['='] <:+: text :=
    fun inside => plain option ((List.prefix_append _ _).isInfix.trans inside)
  induction order generalizing front with
  | nil =>
    rw [List.flatMap_nil, List.append_nil]
    exact whole plain
  | cons other order ih =>
    rw [List.flatMap_cons, printOption]
    cases present : statement.value other with
    | none => exact ih plain
    | some value =>
      have word := printable.options other value present
      intro inside
      simp only [List.cons_append, List.append_assoc] at inside
      rcases infix_of_infix_cons _ solid inside with early | later
      · exact whole plain early
      · rcases infix_of_infix_cons _ solid later with early | later
        · have bound := early.length_le
          simp at bound
        · exact ih word.2 later

end Pieces

section Target

theorem Ident.ne_slash {s : String} (ident : Ident s) : s.toList ≠ ['/'] := by
  intro same
  apply ident.2
  rw [same]
  exact List.mem_singleton_self _

theorem ofPath_path {target : LinkTarget} (printable : PrintableTarget target) :
    LinkTarget.ofPath target.path = target := by
  cases target with
  | index => decide
  | invalid reason => exact printable.elim
  | topic ident =>
    obtain ⟨ident, -⟩ := printable
    rw [LinkTarget.path, LinkTarget.ofPath, ident.1.1.nonBlank?_eq_self]
    simp [ident.ne_slash, ident.2]
  | categoryTopic category ident =>
    obtain ⟨word, word', -⟩ := printable
    have whole := (word.1.1.append word'.1.1 ['/']).nonBlank?_eq_self
    have pieces := splitOnChar_append '/' category.toList ident.toList
    rw [splitOnChar_of_absent word.2, splitOnChar_of_absent word'.2] at pieces
    have longer : category.toList ++ '/' :: ident.toList ≠ ['/'] := by
      intro same
      have length := congrArg List.length same
      have positive := List.length_pos_iff.mpr word.1.1.2
      simp only [List.length_append, List.length_cons, List.length_nil] at length
      omega
    rw [List.append_assoc, List.singleton_append] at whole
    rw [LinkTarget.path, List.append_assoc, List.singleton_append, LinkTarget.ofPath, whole]
    simp [longer, pieces, word.1.1.nonBlank?_eq_self, word'.1.1.nonBlank?_eq_self]

theorem ofPath_append {path blank : List Char} (trimmed : Trimmed path)
    (isBlank : allBlank blank = true) :
    LinkTarget.ofPath (path ++ blank) = LinkTarget.ofPath path := by
  have read : Text.nonBlank? ([] ++ path ++ blank) = some path := trimmed.nonBlank? rfl isBlank
  rw [List.nil_append] at read
  rw [LinkTarget.ofPath, LinkTarget.ofPath, read, trimmed.nonBlank?_eq_self]

theorem path_readable {target : LinkTarget} (printable : PrintableTarget target) :
    Trimmed target.path ∧ Plain target.path ∧ target.path.head? ≠ some '$' := by
  cases target with
  | index =>
    refine ⟨⟨by decide, by decide⟩, fun option inside => ?_, by decide⟩
    have bound := inside.length_le
    simp [LinkTarget.path] at bound
  | invalid reason => exact printable.elim
  | topic ident => exact ⟨printable.1.1.1, printable.1.1.2, printable.2⟩
  | categoryTopic category ident =>
    obtain ⟨category, ident, head⟩ := printable
    refine ⟨category.1.1.append ident.1.1 _, category.1.2.append ident.1.2, ?_⟩
    rwa [LinkTarget.path, List.append_assoc, List.head?_append_of_ne_nil _ category.1.1.2]

theorem cutSigil_sigil (asObject : Bool) (body : List Char) (noSigil : body.head? ≠ some '$')
    (noSpace : body.head? ≠ some ' ') :
    cutSigil ((if asObject then ['$'] else []) ++ body) = (asObject, body) := by
  cases body with
  | nil => cases asObject <;> rfl
  | cons c body =>
    have other : c ≠ '$' := fun same => noSigil (congrArg some same)
    have solid : c ≠ ' ' := fun same => noSpace (congrArg some same)
    cases asObject with
    | false =>
      change cutSigil (c :: body) = (false, c :: body)
      rw [cutSigil]
      rintro rest ⟨rfl, -⟩
      exact other rfl
    | true =>
      simp [cutSigil, other, solid]

end Target

/-- A printed statement is read as the statement that it was printed from, in any order of its
    options. -/
theorem parse_print {order : List LinkOption} (complete : order.Perm LinkOption.all)
    {statement : LinkStatement} (printable : statement.Printable) :
    parse (statement.print order) = statement := by
  have distinct : order.Nodup := complete.nodup_iff.mpr (by decide)
  obtain ⟨trimmed, plain, noSigil⟩ := path_readable printable.target
  have cut := cutSigil_sigil statement.asObject
    (statement.target.path ++ order.flatMap statement.printOption)
    (by rwa [List.head?_append_of_ne_nil _ trimmed.2])
    (by rw [List.head?_append_of_ne_nil _ trimmed.2]; exact trimmed.head_ne_space)
  have clear : ¬ TextOverlapped LinkOption.all
      (statement.target.path ++ order.flatMap statement.printOption) := by
    intro overlapped
    obtain ⟨option, inside⟩ := overlapped.exists_infix
    exact plain_triple printable plain order option inside
  obtain ⟨blank, isBlank, path, values⟩ :=
    scan_printed printable distinct complete.subset plain
  have value (option : LinkOption) := (values option).trans
    (if_pos (complete.mem_iff.mpr option.mem_all))
  rw [parse, print, String.toList_ofList, List.append_assoc, ofChars_of_clear (by rwa [cut]), cut]
  simp only [ofScan, path, value, ofPath_append trimmed isBlank, ofPath_path printable.target]
  rfl

/-- Single characters of delimiters, slashes and sigils stand next to the delimiters here. -/
theorem parse_print_crowded :
    [LinkOption.className, .text, .description].Perm LinkOption.all ∧
      Printable
        { asObject := true, target := .categoryTopic "=" "$:", text := some "=",
          description := some "/ = .", className := some ":" } ∧
      parse "$=/$: .= : == = := / = ." =
        { asObject := true, target := .categoryTopic "=" "$:", text := some "=",
          description := some "/ = .", className := some ":" } := by
  have complete : [LinkOption.className, .text, .description].Perm LinkOption.all := by decide
  have printable : Printable
      { asObject := true, target := .categoryTopic "=" "$:", text := some "=",
        description := some "/ = .", className := some ":" } := by
    refine ⟨⟨by decide, by decide, by decide⟩, ?_⟩
    rintro (_ | _ | _) value ⟨⟩ <;> decide
  have read := parse_print complete printable
  refine ⟨complete, printable, ?_⟩
  rwa [show print _ _ = "$=/$: .= : == = := / = ." by decide] at read

end LinkStatement

end TopicWiki
