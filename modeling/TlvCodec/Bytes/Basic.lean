namespace TlvCodec

/-- Wire data, first octet first. -/
abbrev Bytes := List UInt8

abbrev Octets (n : Nat) := { bs : Bytes // bs.length = n }

namespace BigEndian

def word16 (a b : UInt8) : UInt16 := UInt16.ofNat (a.toNat * 256 + b.toNat)

def word24 (a b c : UInt8) : UInt32 :=
  UInt32.ofNat (a.toNat * 65536 + b.toNat * 256 + c.toNat)

def word32 (a b c d : UInt8) : UInt32 :=
  UInt32.ofNat (a.toNat * 16777216 + b.toNat * 65536 + c.toNat * 256 + d.toNat)

def octets16 (n : UInt16) : Bytes :=
  [UInt8.ofNat (n.toNat / 256), UInt8.ofNat n.toNat]

/-- The low 24 bits of a word; the top octet is dropped. -/
def octets24 (n : UInt32) : Bytes :=
  [UInt8.ofNat (n.toNat / 65536), UInt8.ofNat (n.toNat / 256), UInt8.ofNat n.toNat]

def octets32 (n : UInt32) : Bytes :=
  [UInt8.ofNat (n.toNat / 16777216), UInt8.ofNat (n.toNat / 65536),
    UInt8.ofNat (n.toNat / 256), UInt8.ofNat n.toNat]

theorem word16_toNat (a b : UInt8) : (word16 a b).toNat = a.toNat * 256 + b.toNat := by
  have ha := a.toNat_lt
  have hb := b.toNat_lt
  simp only [word16, UInt16.toNat_ofNat']
  omega

theorem word24_toNat (a b c : UInt8) :
    (word24 a b c).toNat = a.toNat * 65536 + b.toNat * 256 + c.toNat := by
  have ha := a.toNat_lt
  have hb := b.toNat_lt
  have hc := c.toNat_lt
  simp only [word24, UInt32.toNat_ofNat']
  omega

theorem word32_toNat (a b c d : UInt8) :
    (word32 a b c d).toNat =
      a.toNat * 16777216 + b.toNat * 65536 + c.toNat * 256 + d.toNat := by
  have ha := a.toNat_lt
  have hb := b.toNat_lt
  have hc := c.toNat_lt
  have hd := d.toNat_lt
  simp only [word32, UInt32.toNat_ofNat']
  omega

theorem octets16_word16 (a b : UInt8) : octets16 (word16 a b) = [a, b] := by
  have ha := a.toNat_lt
  have hb := b.toNat_lt
  simp only [octets16, word16_toNat, List.cons.injEq, and_true, ← UInt8.toNat_inj,
    UInt8.toNat_ofNat']
  omega

theorem octets24_word24 (a b c : UInt8) : octets24 (word24 a b c) = [a, b, c] := by
  have ha := a.toNat_lt
  have hb := b.toNat_lt
  have hc := c.toNat_lt
  simp only [octets24, word24_toNat, List.cons.injEq, and_true, ← UInt8.toNat_inj,
    UInt8.toNat_ofNat']
  omega

theorem octets32_word32 (a b c d : UInt8) : octets32 (word32 a b c d) = [a, b, c, d] := by
  have ha := a.toNat_lt
  have hb := b.toNat_lt
  have hc := c.toNat_lt
  have hd := d.toNat_lt
  simp only [octets32, word32_toNat, List.cons.injEq, and_true, ← UInt8.toNat_inj,
    UInt8.toNat_ofNat']
  omega

theorem word16_octets16 (n : UInt16) :
    word16 (UInt8.ofNat (n.toNat / 256)) (UInt8.ofNat n.toNat) = n := by
  have hn := n.toNat_lt
  simp only [← UInt16.toNat_inj, word16_toNat, UInt8.toNat_ofNat']
  omega

theorem word24_octets24 (n : UInt32) :
    (word24 (UInt8.ofNat (n.toNat / 65536)) (UInt8.ofNat (n.toNat / 256))
      (UInt8.ofNat n.toNat)).toNat = n.toNat % 16777216 := by
  have hn := n.toNat_lt
  simp only [word24_toNat, UInt8.toNat_ofNat']
  omega

theorem word32_octets32 (n : UInt32) :
    word32 (UInt8.ofNat (n.toNat / 16777216)) (UInt8.ofNat (n.toNat / 65536))
      (UInt8.ofNat (n.toNat / 256)) (UInt8.ofNat n.toNat) = n := by
  have hn := n.toNat_lt
  simp only [← UInt32.toNat_inj, word32_toNat, UInt8.toNat_ofNat']
  omega

@[simp] theorem octets16_length (n : UInt16) : (octets16 n).length = 2 := rfl

@[simp] theorem octets32_length (n : UInt32) : (octets32 n).length = 4 := rfl

end BigEndian

/-- Output under construction. Writing appends at the end. -/
abbrev Buffer := Array UInt8

namespace Buffer

def word16 (n : UInt16) (b : Buffer) : Buffer :=
  (b.push (UInt8.ofNat (n.toNat / 256))).push (UInt8.ofNat n.toNat)

def word24 (n : UInt32) (b : Buffer) : Buffer :=
  ((b.push (UInt8.ofNat (n.toNat / 65536))).push (UInt8.ofNat (n.toNat / 256))).push
    (UInt8.ofNat n.toNat)

def word32 (n : UInt32) (b : Buffer) : Buffer :=
  (((b.push (UInt8.ofNat (n.toNat / 16777216))).push (UInt8.ofNat (n.toNat / 65536))).push
    (UInt8.ofNat (n.toNat / 256))).push (UInt8.ofNat n.toNat)

def bytes : Bytes → Buffer → Buffer
  | [], b => b
  | x :: xs, b => bytes xs (b.push x)

@[simp] theorem toList_word16 (n : UInt16) (b : Buffer) :
    (b.word16 n).toList = b.toList ++ BigEndian.octets16 n := by
  simp [word16, BigEndian.octets16]

@[simp] theorem toList_word24 (n : UInt32) (b : Buffer) :
    (b.word24 n).toList = b.toList ++ BigEndian.octets24 n := by
  simp [word24, BigEndian.octets24]

@[simp] theorem toList_word32 (n : UInt32) (b : Buffer) :
    (b.word32 n).toList = b.toList ++ BigEndian.octets32 n := by
  simp [word32, BigEndian.octets32]

@[simp] theorem toList_bytes (xs : Bytes) (b : Buffer) :
    (b.bytes xs).toList = b.toList ++ xs := by
  induction xs generalizing b with
  | nil => simp [bytes]
  | cons x xs ih => simp [bytes, ih]

end Buffer

end TlvCodec
