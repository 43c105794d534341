import Mathlib.Data.String.Basic

/-! Text and the bytes that encode it. -/

namespace Utf8

def encode (s : String) : List UInt8 := s.toByteArray.data.toList

def decode (bytes : List UInt8) : Option String := String.fromUTF8? ⟨bytes.toArray⟩

def asciiText (bytes : List UInt8) : String :=
  String.ofList (bytes.map fun b => Char.ofNat b.toNat)

variable {bytes : List UInt8} {s : String}

theorem decode_eq_some_iff : decode bytes = some s ↔ encode s = bytes := by
  unfold decode encode String.fromUTF8?
  constructor
  · intro h
    split at h
    · obtain rfl := Option.some.inj h
      rfl
    · exact absurd h nofun
  · rintro rfl
    exact dif_pos s.isValidUTF8

@[simp] theorem decode_encode (s : String) : decode (encode s) = some s :=
  decode_eq_some_iff.mpr rfl

theorem decode_inj {bytes' : List UInt8} (h : decode bytes = some s)
    (h' : decode bytes' = some s) : bytes = bytes' :=
  (decode_eq_some_iff.mp h).symm.trans (decode_eq_some_iff.mp h')

theorem val_ofNat_ascii {b : UInt8} (h : b < 128) : (Char.ofNat b.toNat).val = b.toUInt32 := by
  have hb : b.toNat < 128 := UInt8.lt_iff_toNat_lt.mp h
  have hv : b.toNat.isValidChar := .inl (hb.trans (by decide))
  unfold Char.ofNat
  rw [dif_pos hv]
  apply UInt32.toNat_inj.mp
  show b.toNat = b.toUInt32.toNat
  rw [UInt8.toNat_toUInt32]

theorem utf8EncodeChar_ascii {b : UInt8} (h : b < 128) :
    String.utf8EncodeChar (Char.ofNat b.toNat) = [b] := by
  have hb : b.toNat < 128 := UInt8.lt_iff_toNat_lt.mp h
  have hsize : (Char.ofNat b.toNat).utf8Size = 1 := by
    rw [Char.utf8Size_eq_one_iff, val_ofNat_ascii h, UInt32.le_iff_toNat_le, UInt8.toNat_toUInt32]
    exact Nat.le_of_lt_succ hb
  rw [String.utf8EncodeChar_eq_singleton hsize, val_ofNat_ascii h, UInt8.toUInt8_toUInt32]

theorem encode_ofList (chars : List Char) :
    encode (String.ofList chars) = chars.flatMap String.utf8EncodeChar := by
  show (chars.flatMap String.utf8EncodeChar).toByteArray.data.toList = _
  rw [List.data_toByteArray]

theorem encode_asciiText (h : ∀ b ∈ bytes, b < 128) : encode (asciiText bytes) = bytes := by
  rw [asciiText, encode_ofList, List.flatMap_map]
  induction bytes with
  | nil => rfl
  | cons b bytes ih =>
    rw [List.flatMap_cons, utf8EncodeChar_ascii (h b List.mem_cons_self),
      ih fun b' hb' => h b' (List.mem_cons_of_mem b hb')]
    rfl

theorem decode_ascii (h : ∀ b ∈ bytes, b < 128) : decode bytes = some (asciiText bytes) :=
  decode_eq_some_iff.mpr (encode_asciiText h)

end Utf8
