/-!
# UTF-8 measure and order of texts

Positions in a text are counted in UTF-8 bytes, and maps list their keys in the dictionary order of
those bytes.  This file gives the bytes of a text (`utf8`), the text of bytes (`ofUtf8?`), the byte
length of a list of characters (`byteLength`), and the facts that make the byte order a strict total
order (`utf8_inj`, `utf8_lt_of_ne`).
-/

namespace DriverRegistration.Text

/-- The UTF-8 bytes of a text. -/
def utf8 (s : String) : List UInt8 := s.toByteArray.data.toList

/-- The number of UTF-8 bytes that a list of characters takes. -/
def byteLength : List Char → Nat
  | [] => 0
  | c :: cs => c.utf8Size + byteLength cs

@[simp] theorem byteLength_append (cs ds : List Char) :
    byteLength (cs ++ ds) = byteLength cs + byteLength ds := by
  induction cs with
  | nil => exact (Nat.zero_add _).symm
  | cons c cs ih => simp only [List.cons_append, byteLength, ih, Nat.add_assoc]

theorem utf8_inj {s t : String} (h : utf8 s = utf8 t) : s = t :=
  String.toByteArray_inj.1 (ByteArray.ext (Array.toList_inj.1 h))

/-- The text whose UTF-8 bytes are given, if they are those of a text. -/
def ofUtf8? (bytes : List UInt8) : Option String := String.fromUTF8? ⟨bytes.toArray⟩

theorem ofUtf8?_utf8 (s : String) : ofUtf8? (utf8 s) = some s := by
  have h : (⟨(utf8 s).toArray⟩ : ByteArray) = s.toByteArray := by simp [utf8]
  simp only [ofUtf8?, String.fromUTF8?, h, s.isValidUTF8, ↓reduceDIte]
  rfl

/-! ## Byte order -/

/-- Two different texts are ordered one way or the other. -/
theorem utf8_lt_of_ne {s t : String} (hne : s ≠ t) (h : ¬ utf8 s < utf8 t) : utf8 t < utf8 s := by
  rcases List.le_total (utf8 s) (utf8 t) with hle | hle
  · rcases Classical.em (utf8 t < utf8 s) with hlt | hlt
    · exact hlt
    · exact absurd (utf8_inj (List.le_antisymm hle h)) hne
  · rcases Classical.em (utf8 t < utf8 s) with hlt | hlt
    · exact hlt
    · exact absurd (utf8_inj (List.le_antisymm hlt h)) hne

end DriverRegistration.Text
