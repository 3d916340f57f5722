namespace TopicWiki

inductive ContentErrorKind where
  | missing
  | invalid
  | io
  deriving DecidableEq, Repr

structure ErrorClasses where
  missing : Bool := false
  invalid : Bool := false
  io : Bool := false
  deriving DecidableEq, Repr

namespace ErrorClasses

def none : ErrorClasses := {}

def all : ErrorClasses := ⟨true, true, true⟩

/-- Bits one, two and four stand for missing, invalid and storage errors; other bits are ignored. -/
def ofBits (bits : Nat) : ErrorClasses :=
  ⟨bits.testBit 0, bits.testBit 1, bits.testBit 2⟩

def bits (classes : ErrorClasses) : Nat :=
  classes.missing.toNat + 2 * classes.invalid.toNat + 4 * classes.io.toNat

def has (classes : ErrorClasses) : ContentErrorKind → Bool
  | .missing => classes.missing
  | .invalid => classes.invalid
  | .io => classes.io

def contains (classes other : ErrorClasses) : Bool :=
  (!other.missing || classes.missing) && (!other.invalid || classes.invalid) &&
    (!other.io || classes.io)

def union (a b : ErrorClasses) : ErrorClasses :=
  ⟨a.missing || b.missing, a.invalid || b.invalid, a.io || b.io⟩

def isEmpty (classes : ErrorClasses) : Bool :=
  !classes.missing && !classes.invalid && !classes.io

end ErrorClasses

structure ContentError where
  kind : ContentErrorKind
  ident : String
  detail : String
  deriving DecidableEq, Repr

def ContentErrorKind.label : ContentErrorKind → String
  | .missing => "missing"
  | .invalid => "invalid"
  | .io => "I/O"

def ContentError.message (e : ContentError) : String :=
  e.kind.label ++ " content in '" ++ e.ident ++ "': " ++ e.detail

/-- What becomes of a content error: a fatal one is an error, another one yields empty text, with a
    warning if its class is to be logged. -/
def ContentError.degrade (e : ContentError) (fatal logged : ErrorClasses) :
    Except ContentError String × Option String :=
  if fatal.has e.kind then (.error e, .none)
  else (.ok "", if logged.has e.kind then some e.message else .none)

end TopicWiki
