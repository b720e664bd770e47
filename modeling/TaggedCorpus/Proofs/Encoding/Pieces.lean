import Mathlib.Tactic.Common
import TaggedCorpus.Encoding.Utf8

/-!
UTF-8 read in pieces.

Bytes begin with whole sequences, and what is left after these is empty, or waits for more, or
cannot go on. Only what waits is carried over to the next piece, so it makes no difference to the
text of a file where its pieces end.
-/

namespace TaggedCorpus

namespace Codec

end Codec

namespace Decoded

lemma append_append (t u : Text) (d : Decoded) : (d.append u).append t = d.append (t ++ u) := by
  simp [append]

end Decoded

namespace Utf8

/-! ### One sequence -/

section Step

variable {s : Sequence} {b : UInt8} (hrange : (s.low ≤ b.toNat && b.toNat ≤ s.high) = true)

include hrange

end Step

/-- These bytes decode to this text, whatever stands before and after them. -/
def Spells (front : List UInt8) (t : Text) : Prop :=
  ∀ position more, decodeFrom position none (front ++ more) =
    (decodeFrom (position + front.length) none more).append t

lemma Spells.append {front front' : List UInt8} {t t' : Text} (h : Spells front t)
    (h' : Spells front' t') : Spells (front ++ front') (t ++ t') := by
  intro position more
  rw [List.append_assoc, h, h', Decoded.append_append, List.length_append, Nat.add_assoc]

/-- Bytes that decode to this are read as this content: what waits at their end comes to what it
comes to if nothing follows, and if they do not decode there is a fault in the content too. -/
def Agrees (d : Decoded) (c : Content) : Prop :=
  match d.ending with
  | .complete => c = ⟨d.text, .complete⟩
  | .cutOff _ atEnd => c = atEnd.append d.text
  | .broken _ => ∃ f t ending, c.ending = .broken f t ending

lemma Agrees.append {d : Decoded} {c : Content} (h : Agrees d c) (t : Text) :
    Agrees (d.append t) (c.append t) := by
  obtain ⟨text, _ | f | ⟨n, atEnd⟩⟩ := d
  · obtain rfl := h
    rfl
  · exact h
  · obtain rfl := h
    simp [Agrees, Decoded.append, Content.append]

end Utf8

end TaggedCorpus
