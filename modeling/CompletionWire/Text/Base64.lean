import CompletionWire.Text.Utf8

/-!
# Base64

Three bytes become four letters of six bits each; a last group of one or two bytes is padded.
-/

namespace CompletionWire

namespace Base64

def alphabet : Text := text "ABCDEFGHIJKLMNOPQRSTUVWXYZabcdefghijklmnopqrstuvwxyz0123456789+/"

def letter (n : Nat) : CodePoint := (alphabet[n % 64]?).getD (CodePoint.ofChar '=')

def pad : CodePoint := CodePoint.ofChar '='

def encode : Bytes → Text
  | [] => []
  | [a] => [letter (a.toNat / 4), letter (a.toNat * 16), pad, pad]
  | [a, b] =>
    [letter (a.toNat / 4), letter (a.toNat * 16 + b.toNat / 16), letter (b.toNat * 4), pad]
  | a :: b :: c :: rest =>
    letter (a.toNat / 4) :: letter (a.toNat * 16 + b.toNat / 16) ::
      letter (b.toNat * 4 + c.toNat / 64) :: letter c.toNat :: encode rest

end Base64

end CompletionWire
