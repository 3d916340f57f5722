import TopicWiki.Text.Blank
import TopicWiki.Text.Entity
import TopicWiki.Text.Occurrence

namespace TopicWiki.Textile

def spanWhile (p : Char → Bool) (text : List Char) : List Char × List Char :=
  (text.takeWhile p, text.dropWhile p)

theorem spanWhile_rest_le (p : Char → Bool) (text : List Char) :
    (spanWhile p text).2.length ≤ text.length := by
  simp only [spanWhile]
  exact (List.dropWhile_suffix p).length_le

structure Link where
  label : List Char
  title? : Option (List Char)
  url : List Char
  /-- Punctuation that the address ran into and that stays behind the link. -/
  trailing : List Char
  deriving DecidableEq, Repr

/-- A label that ends in a parenthesised text has that text as title. -/
def splitTitle (label : List Char) : List Char × Option (List Char) :=
  match label.getLast? with
  | some ')' =>
    let inside := label.dropLast
    let closed := Text.dropEndWhile (· != ')') inside
    let tail := inside.drop closed.length
    match Text.cut? ['('] tail with
    | some (front, title) =>
      if title.isEmpty then (label, none)
      else (Text.trimEnd (closed ++ front), some title)
    | none => (label, none)
  | _ => (label, none)

def isTrailing (c : Char) : Bool :=
  ['.', ',', ';', ':', '!', '?', ')'].contains c

def Link.ofParts (label address : List Char) : Link :=
  let (label, title?) := splitTitle label
  let url := Text.dropEndWhile isTrailing address
  ⟨label, title?, url, address.drop url.length⟩

def Link.html (link : Link) : List Char :=
  let title := match link.title? with
    | some title => " title=\"".toList ++ Text.escapeAttribute title ++ ['"']
    | none => []
  "<a href=\"".toList ++ Text.escapeAttribute link.url ++ ['"'] ++ title ++ ['>'] ++ link.label ++
    "</a>".toList ++ link.trailing

/-- Reads a link at the start of a text: a quoted label on one line, a colon and an address without
    blanks, quotes and opening brackets. -/
def Link.read? : List Char → Option (Link × List Char)
  | '"' :: text =>
    let (label, afterLabel) := spanWhile (fun c => c != '"' && c != '\n') text
    match label, afterLabel with
    | _ :: _, '"' :: ':' :: target =>
      let (address, rest) := spanWhile (fun c => !Text.isBlank c && c != '<' && c != '"') target
      if address.isEmpty then none else some (.ofParts label address, rest)
    | _, _ => none
  | _ => none

theorem Link.read?_rest_lt {text rest : List Char} {link : Link}
    (h : Link.read? text = some (link, rest)) : rest.length < text.length := by
  unfold Link.read? at h
  split at h
  · rename_i text
    simp only at h
    split at h
    · rename_i c label target labelEq afterEq
      split at h
      · cases h
      · simp only [Option.some.injEq, Prod.mk.injEq] at h
        have bound := spanWhile_rest_le (fun c => !Text.isBlank c && c != '<' && c != '"') target
        have outer := spanWhile_rest_le (fun c => c != '"' && c != '\n') text
        simp only [afterEq, List.length_cons] at outer
        rw [h.2] at bound
        simp only [List.length_cons]
        omega
    · cases h
  · cases h

structure Image where
  src : List Char
  alt : List Char
  deriving DecidableEq, Repr

def Image.html (image : Image) : List Char :=
  "<img src=\"".toList ++ Text.escapeAttribute image.src ++ "\" alt=\"".toList ++
    Text.escapeAttribute image.alt ++ "\" />".toList

/-- Reads an image at the start of a text: a source without blanks, marks and parentheses, and an
    optional parenthesised alternative text, between two exclamation marks. -/
def Image.read? : List Char → Option (Image × List Char)
  | '!' :: text =>
    let (src, afterSrc) :=
      spanWhile (fun c => !Text.isBlank c && c != '!' && c != '(' && c != ')') text
    if src.isEmpty then none
    else
      match afterSrc with
      | '!' :: rest => some (⟨src, []⟩, rest)
      | '(' :: inside =>
        let (alt, afterAlt) := spanWhile (· != ')') inside
        match afterAlt with
        | ')' :: '!' :: rest => some (⟨src, alt⟩, rest)
        | _ => none
      | _ => none
  | _ => none

theorem Image.read?_rest_lt {text rest : List Char} {image : Image}
    (h : Image.read? text = some (image, rest)) : rest.length < text.length := by
  unfold Image.read? at h
  split at h
  · rename_i text
    have outer := spanWhile_rest_le
      (fun c => !Text.isBlank c && c != '!' && c != '(' && c != ')') text
    simp only at h
    split at h
    · cases h
    · split at h
      · rename_i rest' afterEq
        simp only [Option.some.injEq, Prod.mk.injEq] at h
        simp only [afterEq, List.length_cons, h.2] at outer
        simp only [List.length_cons]
        omega
      · rename_i inside afterEq
        have bound := spanWhile_rest_le (· != ')') inside
        split at h
        · rename_i rest' altEq
          simp only [Option.some.injEq, Prod.mk.injEq] at h
          simp only [afterEq, List.length_cons] at outer
          simp only [altEq, List.length_cons, h.2] at bound
          simp only [List.length_cons]
          omega
        · cases h
      · cases h
  · cases h

def links : List Char → List Char
  | [] => []
  | c :: text =>
    match found : Link.read? (c :: text) with
    | some (link, rest) =>
      have := Link.read?_rest_lt found
      link.html ++ links rest
    | none => c :: links text
termination_by text => text.length
decreasing_by
  · assumption
  · simp

def images : List Char → List Char
  | [] => []
  | c :: text =>
    match found : Image.read? (c :: text) with
    | some (image, rest) =>
      have := Image.read?_rest_lt found
      image.html ++ images rest
    | none => c :: images text
termination_by text => text.length
decreasing_by
  · assumption
  · simp

end TopicWiki.Textile
