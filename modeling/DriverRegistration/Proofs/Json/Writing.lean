import DriverRegistration.Json.Writer
import DriverRegistration.Proofs.Json.Grammar

/-!
# What is written belongs to the grammar

Whatever its characters are, a written text is a string literal that stands for it
(`literal_writtenText`), and a written map is an object without anything between its tokens, whose
members are the entries of the map in their order (`object_writtenTextMap`).
-/

namespace DriverRegistration.Json

/-! ## Strings -/

theorem hexDigit_hexDigit {n : Nat} (h : n < 16) : HexDigit (hexDigit n) n := by
  have hall : ∀ k : Fin 16, hexValue? (hexDigit k) = some k.val := by decide
  exact hexValue?_eq_some_iff.1 (hall ⟨n, h⟩)

/-- A control character is written by its code, which has two digits. -/
theorem hexNumber_control {c : Char} (h : c.toNat < 0x20) :
    HexNumber '0' '0' (hexDigit (c.toNat / 16)) (hexDigit (c.toNat % 16)) c.toNat := by
  have hzero : HexDigit '0' 0 := hexDigit_hexDigit (n := 0) (by decide)
  refine ⟨0, 0, c.toNat / 16, c.toNat % 16, hzero, hzero, ?_, ?_, ?_⟩
  · exact hexDigit_hexDigit (by omega)
  · exact hexDigit_hexDigit (by omega)
  · omega

/-- Every character is written as a body that stands for it alone. -/
theorem body_writtenChar (c : Char) : Body (writtenChar c) [c] := by
  have short {d e : Char} (he : (d, e) ∈ shortEscapes) : Body ['\\', d] [e] := .short he .nil
  unfold writtenChar
  split_ifs with hq hb hbs ht hn hf hr hc
  · rw [hq]; exact short (by decide)
  · rw [hb]; exact short (by decide)
  · rw [hbs]; exact short (by decide)
  · rw [ht]; exact short (by decide)
  · rw [hn]; exact short (by decide)
  · rw [hf]; exact short (by decide)
  · rw [hr]; exact short (by decide)
  · have h := Body.code (hexNumber_control hc) (Or.inl (by omega)) .nil
    rwa [Char.ofNat_toNat] at h
  · exact .plain hq hb (by omega) .nil

theorem body_written (s : List Char) : Body (s.flatMap writtenChar) s := by
  induction s with
  | nil => exact .nil
  | cons c s ih => exact (body_writtenChar c).append ih

theorem literal_writtenText (s : String) : Literal (writtenText s) s := ⟨body_written s.toList⟩

/-! ## Objects -/

theorem commaSeparated_cons_cons (x y : List Char) (items : List (List Char)) :
    commaSeparated (x :: y :: items) = x ++ ',' :: commaSeparated (y :: items) := by
  simp [commaSeparated, List.intersperse]

/-- A member as it is written. -/
def writtenMember (e : String × String) : List Char := writtenText e.1 ++ ':' :: writtenText e.2

theorem member_writtenMember (e : String × String) : Member Tight (writtenMember e) e :=
  .mk (literal_writtenText e.1) tight_nil tight_nil (literal_writtenText e.2)

theorem members_written (e : String × String) (es : List (String × String)) :
    Members Tight (commaSeparated ((e :: es).map writtenMember)) (e :: es) := by
  induction es generalizing e with
  | nil =>
    have h := Members.one tight_nil (member_writtenMember e) tight_nil
    simpa [commaSeparated, List.intersperse] using h
  | cons d ds ih =>
    rw [List.map_cons, List.map_cons, commaSeparated_cons_cons]
    exact .more tight_nil (member_writtenMember e) tight_nil (ih d)

theorem object_written (es : List (String × String)) :
    Object Tight (writtenObject (es.map fun e => (e.1, writtenText e.2))) es := by
  have hmembers : (es.map fun e => (e.1, writtenText e.2)).map
      (fun m => writtenText m.1 ++ ':' :: m.2) = es.map writtenMember := by
    rw [List.map_map]
    rfl
  rw [writtenObject, hmembers]
  cases es with
  | nil => exact .empty tight_nil
  | cons e es => exact .filled (members_written e es)

theorem object_writtenTextMap (m : TextMap String) : Object Tight (writtenTextMap m) m.entries :=
  object_written m.entries

end DriverRegistration.Json
