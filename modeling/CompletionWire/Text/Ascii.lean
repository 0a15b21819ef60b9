import CompletionWire.Text.Quoted

/-!
# ASCII texts

Where only ASCII can be sent, a text that holds anything else is refused with the first stretch of
what does not belong.
-/

namespace CompletionWire

/-- A run of code points in a text that has to be ASCII. -/
structure NotAscii where
  first : CodePoint
  start : Nat
  count : Nat
deriving DecidableEq

/-- The first run of code points beyond ASCII. -/
def Text.notAscii? (t : Text) : Option NotAscii :=
  match t.dropWhile (·.val < 0x80) with
  | [] => none
  | c :: rest => some {
      first := c
      start := (t.takeWhile (·.val < 0x80)).length
      count := ((c :: rest).takeWhile (0x80 ≤ ·.val)).length }

/-- The wording of an encoder that met code points beyond ASCII. -/
def NotAscii.message (run : NotAscii) : Text :=
  (if run.count = 1 then
    text "'ascii' codec can't encode character '" ++ run.first.escaped ++ text "' in position " ++
      Text.ofNat run.start
  else
    text "'ascii' codec can't encode characters in position " ++ Text.ofNat run.start ++ text "-" ++
      Text.ofNat (run.start + run.count - 1)) ++
  text ": ordinal not in range(128)"

end CompletionWire
