import CompletionWire.Text.Utf8

/-!
# Reading bytes code by code

What some bytes begin with is a code, or a stretch that is none, or the start of a code that the
bytes end in. Some codes stand for nothing themselves and change how the rest is read, so a reader
hands on what it has to remember.
-/

namespace CompletionWire

namespace Code

/-- What some bytes begin with. -/
inductive Piece
  | code (written : Text) (size : Nat)
  | wrong (size : Nat)
  | cutShort
deriving DecidableEq

/-- A code of so many bytes if it stands for something, else a stretch of so many that is none. -/
def Piece.ofText (size wrongSize : Nat) : Option Text → Piece
  | some written => .code written size
  | none => .wrong wrongSize

/-- As `ofText`, for one code point. -/
def Piece.ofPoint (size wrongSize : Nat) (c? : Option CodePoint) : Piece :=
  .ofText size wrongSize (c?.map ([·]))

/-- A look-up of one code point as a look-up of a text. -/
def onePoint (find? : Nat → Nat → Option CodePoint) (a b : Nat) : Option Text :=
  (find? a b).map ([·])

/-- What bytes stand for, piece by piece, and the start of a code that they end in. -/
def readFrom {σ : Type} (next : σ → UInt8 → Bytes → Piece × σ) (s : σ) :
    Bytes → List (Option CodePoint) × Bytes
  | [] => ([], [])
  | b :: rest =>
    match next s b rest with
    | (.code written size, s) =>
      let (found, left) := readFrom next s (rest.drop (size - 1))
      (written.map some ++ found, left)
    | (.wrong size, s) =>
      let (found, left) := readFrom next s (rest.drop (size - 1))
      (none :: found, left)
    | (.cutShort, _) => ([], b :: rest)
termination_by bytes => bytes.length
decreasing_by all_goals simp only [List.length_cons, List.length_drop]; omega

/-- As `readFrom`, with nothing to remember. -/
def read (next : UInt8 → Bytes → Piece) (bytes : Bytes) : List (Option CodePoint) × Bytes :=
  readFrom (fun _ b rest => (next b rest, ())) () bytes

/-- A byte that is a code of its own. -/
def single (b : UInt8) : Piece := .code [CodePoint.ofNat b.toNat] 1

/-- A code of two bytes; a first byte that goes with no second one is wrong alone. -/
def double (find? : Nat → Nat → Option Text) (b : UInt8) (rest : Bytes) : Piece :=
  match rest with
  | [] => .cutShort
  | c :: _ => .ofText 2 1 (find? b.toNat c.toNat)

/-- ASCII, and codes of two bytes for all else. -/
def asciiOrDouble (find? : Nat → Nat → Option Text) (b : UInt8) (rest : Bytes) : Piece :=
  if b.toNat < 0x80 then single b else double find? b rest

end Code

end CompletionWire
