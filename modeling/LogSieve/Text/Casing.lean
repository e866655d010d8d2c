import LogSieve.Text.Basic
import LogSieve.Text.Casing.Lower
import LogSieve.Text.Casing.Upper
import LogSieve.Text.Casing.Context

/-!
# Upper and lower case of texts

Upper case is taken character by character.  So is lower case, with one
exception: a capital sigma at the end of a word becomes a final sigma.
-/

namespace LogSieve.Text

/-- The upper case of a text. -/
def upper (t : Text) : Text := t.flatMap upperOf

/-- Whether the first character that is not passed over is a cased letter. -/
def meetsCased : Text → Bool
  | [] => false
  | c :: rest => if isPassedOver c then meetsCased rest else isCased c

/-- The lower case of a capital sigma, given the characters before it (nearest first) and
after it: final if a cased letter comes before and none follows. -/
def sigmaBetween (before after : Text) : Char :=
  if meetsCased before && !meetsCased after then 'ς' else 'σ'

/-- The lower case of a text that stands after the given characters (nearest first). -/
def lowerAfter (before : Text) : Text → Text
  | [] => []
  | c :: rest =>
    if c = 'Σ' then sigmaBetween before rest :: lowerAfter (c :: before) rest
    else lowerOf c ++ lowerAfter (c :: before) rest

/-- The lower case of a text. -/
def lower (t : Text) : Text := lowerAfter [] t

/-- Whether a text holds another one when case is ignored. -/
def holdsIgnoringCase (text piece : Text) : Bool := occursIn piece.lower text.lower

end LogSieve.Text
