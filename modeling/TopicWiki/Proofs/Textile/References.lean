import Mathlib.Data.List.TakeWhile
import TopicWiki.Proofs.Text.Escaping
import TopicWiki.Proofs.Text.Replacement
import TopicWiki.Proofs.Text.Trim
import TopicWiki.Proofs.Textile.Nesting

namespace TopicWiki.Textile

open Text

theorem plain_behind {c : Char} {inside front back : List Char} (single : '<' ∉ inside)
    (other : c ≠ '<') (same : '<' :: inside = front ++ c :: back) : Plain back := by
  cases front with
  | nil => exact absurd (List.cons_eq_cons.mp same).1.symm other
  | cons d front =>
    obtain ⟨-, rfl⟩ := List.cons_eq_cons.mp same
    apply plain_of_absent
    intro member
    exact single (List.mem_append_right _ (List.mem_cons_of_mem _ member))

theorem spanWhile_rest_suffix (p : Char → Bool) (text : List Char) : (spanWhile p text).2 <:+ text :=
  List.dropWhile_suffix p

theorem Image.read?_suffix {text rest : List Char} {image : Image}
    (h : Image.read? text = some (image, rest)) : rest <:+ text := by
  unfold Image.read? at h
  split at h
  · rename_i text
    have source := (spanWhile_rest_suffix
      (fun c => !Text.isBlank c && c != '!' && c != '(' && c != ')') text).trans
        (List.suffix_cons '!' text)
    simp only at h
    split at h
    · cases h
    · split at h
      · rename_i rest' afterSource
        cases h
        rw [afterSource] at source
        exact (List.suffix_cons '!' rest).trans source
      · rename_i inside afterSource
        have alt := spanWhile_rest_suffix (· != ')') inside
        rw [afterSource] at source
        split at h
        · rename_i rest' afterAlt
          cases h
          rw [afterAlt] at alt
          have inner := ((List.suffix_cons '!' rest).trans (List.suffix_cons ')' _)).trans alt
          exact (inner.trans (List.suffix_cons '(' inside)).trans source
        · cases h
      · cases h
  · cases h

def Image.inside (image : Image) : List Char :=
  "img src=\"".toList ++ escapeAttribute image.src ++ "\" alt=\"".toList ++
    escapeAttribute image.alt ++ "\" /".toList

theorem Image.html_eq (image : Image) : image.html = '<' :: (image.inside ++ ['>']) := by
  have last : "\" />".toList = "\" /".toList ++ ['>'] := rfl
  unfold Image.html Image.inside
  generalize escapeAttribute image.src = src
  generalize escapeAttribute image.alt = alt
  rw [last, ← List.append_assoc]
  rfl

theorem Image.not_mem_inside {c : Char} (image : Image) (bracket : c = '<' ∨ c = '>') :
    c ∉ image.inside := by
  have special : c ∈ attributeSpecials := by rcases bracket with rfl | rfl <;> decide
  have other : c ∉ entitySigns := by rcases bracket with rfl | rfl <;> decide
  have start : c ∉ "img src=\"".toList := by rcases bracket with rfl | rfl <;> decide
  have middle : c ∉ "\" alt=\"".toList := by rcases bracket with rfl | rfl <;> decide
  have stop : c ∉ "\" /".toList := by rcases bracket with rfl | rfl <;> decide
  have source := not_mem_escapeAttribute special other image.src
  have alt := not_mem_escapeAttribute special other image.alt
  unfold Image.inside
  simp only [List.mem_append, start, source, middle, alt, stop, or_self, not_false_eq_true]

theorem Image.isVoid (image : Image) : IsVoid image.html where
  toIsTag := by
    rw [image.html_eq, ← List.cons_append]
    refine isTag_of_parts rfl ?_
    rw [List.mem_cons, not_or]
    exact ⟨by decide, image.not_mem_inside (.inr rfl)⟩
  named := ⟨"img", by decide, _, rfl⟩
  behind := by
    intro front back same
    rw [image.html_eq] at same
    refine plain_behind ?_ (by decide) same
    rw [List.mem_append, not_or]
    exact ⟨image.not_mem_inside (.inl rfl), by decide⟩

def Link.titleAttribute (link : Link) : List Char :=
  match link.title? with
  | some title => " title=\"".toList ++ escapeAttribute title ++ ['"']
  | none => []

def Link.start (link : Link) : List Char :=
  "<a href=\"".toList ++ escapeAttribute link.url ++ ['"'] ++ link.titleAttribute

theorem Link.html_eq (link : Link) :
    link.html = link.start ++ ['>'] ++ (link.label ++ ("</a>".toList ++ link.trailing)) := by
  unfold Link.html Link.start Link.titleAttribute
  cases link.title? <;> simp only [List.append_assoc]

theorem Link.not_mem_start {c : Char} {link : Link}
    (letters : c ∉ "<a href=\"".toList ++ " title=\"".toList) (url : c ∉ escapeAttribute link.url)
    (title : ∀ title, link.title? = some title → c ∉ escapeAttribute title) : c ∉ link.start := by
  rw [List.mem_append, not_or] at letters
  have quote : c ∉ ['"'] := by
    intro same
    rw [List.mem_singleton.mp same] at letters
    exact letters.1 (by decide)
  have named : c ∉ link.titleAttribute := by
    unfold titleAttribute
    cases given : link.title? with
    | none => exact List.not_mem_nil
    | some value =>
      have kept := title value given
      simp only [List.mem_append, letters.2, kept, quote, or_self, not_false_eq_true]
  unfold Link.start
  simp only [List.mem_append, letters.1, url, quote, named, or_self, not_false_eq_true]

theorem Link.isOpening {link : Link} (url : '\n' ∉ link.url)
    (title : ∀ title, link.title? = some title → '\n' ∉ title) :
    IsOpening "a" (link.start ++ ['>']) where
  toIsTag := by
    refine isTag_of_parts rfl ?_
    apply Link.not_mem_start (by decide)
    · exact not_mem_escapeAttribute (by decide) (by decide) _
    · exact fun title _ => not_mem_escapeAttribute (by decide) (by decide) title
  named := rfl
  opens := rfl
  container := by decide
  line := by
    rw [List.mem_append, not_or]
    refine ⟨Link.not_mem_start (by decide) ?_ ?_, by decide⟩
    · exact fun member => url (mem_of_mem_escapeAttribute member (by decide))
    · intro value given member
      exact title value given (mem_of_mem_escapeAttribute member (by decide))

theorem isClosing_anchor : IsClosing "a" "</a>".toList where
  toIsTag := ⟨rfl, "</a".toList, rfl, by decide⟩
  named := by decide
  closing := rfl
  line := by decide

theorem splitTitle_inside (label : List Char) :
    (splitTitle label).1 <+: label ∧
      ∀ title, (splitTitle label).2 = some title → title <:+: label := by
  have whole : label <+: label ∧ ∀ title, (none : Option (List Char)) = some title →
      title <:+: label := ⟨List.prefix_rfl, by simp⟩
  unfold splitTitle
  split
  · rename_i last
    have inside := label.dropLast_prefix
    obtain ⟨tail, parted⟩ := dropEndWhile_isPrefix (· != ')') label.dropLast
    simp only
    generalize dropEndWhile (· != ')') label.dropLast = closed at parted ⊢
    have dropped : label.dropLast.drop closed.length = tail := by
      rw [← parted]
      exact List.drop_left
    rw [dropped]
    split
    · rename_i front title cut
      split
      · exact whole
      · have parts : label.dropLast = closed ++ front ++ (['('] ++ title) := by
          rw [← parted, cut?_eq_some cut]
          simp only [List.append_assoc]
        refine ⟨(trimEnd_isPrefix _).trans (List.IsPrefix.trans ⟨_, parts.symm⟩ inside), ?_⟩
        intro title' same
        cases same
        rw [← List.append_assoc] at parts
        exact List.IsInfix.trans ⟨_, [], by rw [parts, List.append_nil]⟩ inside.isInfix
    · exact whole
  · exact whole

theorem Link.read?_eq_some {text rest : List Char} {link : Link}
    (h : Link.read? text = some (link, rest)) :
    ∃ label address, text = '"' :: (label ++ '"' :: ':' :: (address ++ rest)) ∧
      link = .ofParts label address ∧ '\n' ∉ label ∧ '\n' ∉ address := by
  unfold Link.read? at h
  split at h
  · rename_i text
    simp only at h
    split at h
    · rename_i c label target labelSame afterSame
      split at h
      · cases h
      · simp only [Option.some.injEq, Prod.mk.injEq] at h
        obtain ⟨rfl, rfl⟩ := h
        let isLabel (c : Char) : Bool := c != '"' && c != '\n'
        let isAddress (c : Char) : Bool := !Text.isBlank c && c != '<' && c != '"'
        have whole : (spanWhile isLabel text).1 ++ (spanWhile isLabel text).2 = text :=
          List.takeWhile_append_dropWhile
        have parts : (spanWhile isAddress target).1 ++ (spanWhile isAddress target).2 = target :=
          List.takeWhile_append_dropWhile
        refine ⟨c :: label, (spanWhile isAddress target).1, ?_, by rw [labelSame], ?_, ?_⟩
        · rw [parts, ← labelSame, ← afterSame, whole]
        · intro member
          rw [← labelSame] at member
          exact absurd (List.mem_takeWhile_imp member) (by decide)
        · intro member
          exact absurd (List.mem_takeWhile_imp member) (by decide)
    · cases h
  · cases h

theorem Link.ofParts_address (label address : List Char) :
    (Link.ofParts label address).url ++ (Link.ofParts label address).trailing = address := by
  obtain ⟨trailing, parted⟩ := dropEndWhile_isPrefix isTrailing address
  unfold Link.ofParts
  simp only
  generalize dropEndWhile isTrailing address = url at parted ⊢
  rw [← parted, List.drop_left]

theorem Image.read?_eq_some {text rest : List Char} {image : Image}
    (h : Image.read? text = some (image, rest)) :
    (text = '!' :: (image.src ++ '!' :: rest) ∧ image.alt = []) ∨
      text = '!' :: (image.src ++ '(' :: (image.alt ++ ')' :: '!' :: rest)) := by
  unfold Image.read? at h
  split at h
  · rename_i text
    let isSource (c : Char) : Bool := !Text.isBlank c && c != '!' && c != '(' && c != ')'
    have parts : (spanWhile isSource text).1 ++ (spanWhile isSource text).2 = text :=
      List.takeWhile_append_dropWhile
    simp only at h
    split at h
    · cases h
    · split at h
      · rename_i rest' afterSource
        cases h
        rw [← afterSource]
        exact .inl ⟨congrArg _ parts.symm, rfl⟩
      · rename_i inside afterSource
        have altParts : (spanWhile (· != ')') inside).1 ++ (spanWhile (· != ')') inside).2 = inside :=
          List.takeWhile_append_dropWhile
        split at h
        · rename_i rest' afterAlt
          cases h
          rw [← afterAlt, altParts, ← afterSource]
          exact .inr (congrArg _ parts.symm)
        · cases h
      · cases h
  · cases h

/-- The address of a link runs to a blank, an angle bracket or a quote. -/
theorem Link.read?_rest_head {text rest : List Char} {link : Link}
    (h : Link.read? text = some (link, rest)) :
    ∀ c ∈ rest.head?, isBlank c = true ∨ c = '<' ∨ c = '"' := by
  let isAddress (c : Char) : Bool := !Text.isBlank c && c != '<' && c != '"'
  unfold Link.read? at h
  split at h
  · rename_i text
    simp only at h
    split at h
    · rename_i c label target labelSame afterSame
      split at h
      · cases h
      · simp only [Option.some.injEq, Prod.mk.injEq] at h
        obtain ⟨-, rfl⟩ := h
        intro c here
        have stop := List.head?_dropWhile_not isAddress target
        rw [show (target.dropWhile isAddress).head? = some c from here] at stop
        simp only [isAddress, Bool.and_eq_false_iff, Bool.not_eq_false', bne_eq_false_iff_eq] at stop
        exact or_assoc.mp stop
    · cases h
  · cases h

theorem splitTitle_parts (label : List Char) :
    splitTitle label = (label, none) ∨ ∃ kept blanks title, splitTitle label = (kept, some title) ∧
      allBlank blanks = true ∧ label = kept ++ (blanks ++ '(' :: (title ++ [')'])) := by
  unfold splitTitle
  split
  · rename_i last
    have whole : label.dropLast ++ [')'] = label := List.dropLast_append_getLast? _ last
    obtain ⟨tail, parted⟩ := dropEndWhile_isPrefix (· != ')') label.dropLast
    simp only
    generalize dropEndWhile (· != ')') label.dropLast = closed at parted ⊢
    rw [← parted, List.drop_left]
    split
    · rename_i front title found
      split
      · exact .inl rfl
      · obtain ⟨blanks, kept, blank⟩ := exists_blank_trimEnd (closed ++ front)
        refine .inr ⟨_, blanks, title, rfl, blank, ?_⟩
        rw [cut?_eq_some found] at parted
        have behind : closed ++ (front ++ ['('] ++ title) ++ [')'] =
            (closed ++ front) ++ '(' :: (title ++ [')']) := by
          simp
        rw [← whole, ← parted, behind]
        conv_lhs => rw [kept]
        exact List.append_assoc _ _ _
    · exact .inl rfl
  · exact .inl rfl

theorem Link.ofParts_trailing (label address : List Char) :
    (Link.ofParts label address).trailing.all isTrailing = true := by
  obtain ⟨trailing, parted, dropped⟩ := exists_of_dropEndWhile isTrailing address
  unfold Link.ofParts
  simp only
  generalize dropEndWhile isTrailing address = url at parted ⊢
  rw [parted, List.drop_left]
  exact dropped

theorem images_cons {c : Char} {text : List Char} (unmarked : c ≠ '!') :
    images (c :: text) = c :: images text := by
  have unread : Image.read? (c :: text) = none := by
    unfold Image.read?
    split
    · rename_i same
      exact absurd (List.cons_eq_cons.mp same).1 unmarked
    · rfl
  rw [images]
  split
  · rename_i found
    rw [unread] at found
    cases found
  · rfl

theorem links_cons {c : Char} {text : List Char} (unmarked : c ≠ '"') :
    links (c :: text) = c :: links text := by
  have unread : Link.read? (c :: text) = none := by
    unfold Link.read?
    split
    · rename_i same
      exact absurd (List.cons_eq_cons.mp same).1 unmarked
    · rfl
  rw [links]
  split
  · rename_i found
    rw [unread] at found
    cases found
  · rfl

theorem images_woven {text : List Char} (plain : Plain text) : Woven text (images text) := by
  fun_induction images text with
  | case1 => exact .refl plain
  | case2 c text image rest found shorter ih =>
    have later := ih (plain.of_suffix (Image.read?_suffix found))
    exact .of_tag image.isVoid.toIsTag (.of_tag image.isVoid later.nested) _
  | case3 c text unread ih =>
    change Woven ([c] ++ text) ([c] ++ _)
    exact .behind plain (ih (plain_cons_iff.mp plain).2)

theorem Link.read?_inside {text rest : List Char} {link : Link}
    (found : Link.read? text = some (link, rest)) :
    link.label <:+: text ∧ link.trailing ++ rest <:+ text := by
  obtain ⟨label, address, source, made, -, -⟩ := Link.read?_eq_some found
  have parted := Link.ofParts_address label address
  rw [← made] at parted
  have inside : link.label <:+: label := by
    rw [made]
    exact (splitTitle_inside label).1.isInfix
  rw [source]
  refine ⟨inside.trans ⟨['"'], '"' :: ':' :: (address ++ rest), List.append_assoc _ _ _⟩, ?_⟩
  rw [← parted]
  exact ⟨'"' :: (label ++ '"' :: ':' :: link.url), by simp⟩

theorem Link.read?_lines {text rest : List Char} {link : Link}
    (found : Link.read? text = some (link, rest)) :
    '\n' ∉ link.url ∧ ∀ title, link.title? = some title → '\n' ∉ title := by
  obtain ⟨label, address, -, made, labelLine, addressLine⟩ := Link.read?_eq_some found
  have parted := Link.ofParts_address label address
  rw [← made] at parted
  refine ⟨fun member => addressLine ?_, fun title given member => labelLine ?_⟩
  · rw [← parted]
    exact List.mem_append_left _ member
  · rw [made] at given
    exact ((splitTitle_inside label).2 title given).subset member

theorem links_woven {text : List Char} (plain : Plain text) : Woven text (links text) := by
  fun_induction links text with
  | case1 => exact .refl plain
  | case2 c text link rest found shorter ih =>
    obtain ⟨label, behind⟩ := Link.read?_inside found
    obtain ⟨url, title⟩ := Link.read?_lines found
    have opening : IsOpening "a" (link.start ++ ['>']) := Link.isOpening url title
    have behindPlain := plain.of_suffix behind
    have later := (ih (plain_append_iff.mp behindPlain).2.1).behind behindPlain
    have whole : link.html ++ links rest = link.start ++ ['>'] ++
        (link.label ++ ("</a>".toList ++ (link.trailing ++ links rest))) := by
      rw [Link.html_eq]
      simp only [List.append_assoc]
    rw [whole]
    refine .of_tag opening.toIsTag ?_ _
    exact .of_element opening (.plain (plain.of_infix label)) isClosing_anchor later.nested
  | case3 c text unread ih =>
    change Woven ([c] ++ text) ([c] ++ _)
    exact .behind plain (ih (plain_cons_iff.mp plain).2)

end TopicWiki.Textile
