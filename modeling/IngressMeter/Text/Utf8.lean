/-!
Bytes as text. A sequence that is cut short or cannot be continued counts as one invalid part, as
long as it can still be the beginning of a character.
-/

namespace IngressMeter.Utf8

/-- What has been read of a character: the value so far, how many bytes are still to come, and
between which bounds the next one must lie. -/
structure Pending where
  value : Nat
  missing : Nat
  low : Nat
  high : Nat

def start (byte : Nat) : Except Pending (Option Char) :=
  if byte < 0x80 then .ok (some (Char.ofNat byte))
  else if 0xC2 ≤ byte && byte ≤ 0xDF then .error ⟨byte - 0xC0, 1, 0x80, 0xBF⟩
  else if byte = 0xE0 then .error ⟨0, 2, 0xA0, 0xBF⟩
  else if byte = 0xED then .error ⟨0xD, 2, 0x80, 0x9F⟩
  else if 0xE1 ≤ byte && byte ≤ 0xEF then .error ⟨byte - 0xE0, 2, 0x80, 0xBF⟩
  else if byte = 0xF0 then .error ⟨0, 3, 0x90, 0xBF⟩
  else if byte = 0xF4 then .error ⟨4, 3, 0x80, 0x8F⟩
  else if 0xF1 ≤ byte && byte ≤ 0xF3 then .error ⟨byte - 0xF0, 3, 0x80, 0xBF⟩
  else .ok none

/-- The characters of a byte sequence, `none` for each invalid part; `out` is what came before, in
reverse. -/
def parts (bytes : List UInt8) (pending : Option Pending) (out : List (Option Char)) :
    List (Option Char) :=
  match bytes with
  | [] => (if pending.isSome then none :: out else out).reverse
  | byte :: rest =>
    let fresh (out : List (Option Char)) :=
      match start byte.toNat with
      | .ok part => parts rest none (part :: out)
      | .error begun => parts rest (some begun) out
    match pending with
    | none => fresh out
    | some ⟨value, missing, low, high⟩ =>
      if low ≤ byte.toNat && byte.toNat ≤ high then
        let value := value * 64 + (byte.toNat - 0x80)
        if missing = 1 then parts rest none (some (Char.ofNat value) :: out)
        else parts rest (some ⟨value, missing - 1, 0x80, 0xBF⟩) out
      else fresh (none :: out)

def decodeLossy (bytes : List UInt8) : String :=
  String.ofList ((parts bytes none []).map (·.getD '\uFFFD'))

def decode? (bytes : List UInt8) : Option String :=
  ((parts bytes none []).mapM id).map String.ofList

def encode (text : String) : List UInt8 := text.toList.flatMap String.utf8EncodeChar

end IngressMeter.Utf8
