namespace GatedStore.Text.Utf8

def encodeChar (c : Char) : List UInt8 :=
  let n := c.toNat
  if n < 0x80 then [n.toUInt8]
  else if n < 0x800 then [(0xC0 + n / 0x40).toUInt8, (0x80 + n % 0x40).toUInt8]
  else if n < 0x10000 then
    [(0xE0 + n / 0x1000).toUInt8, (0x80 + n / 0x40 % 0x40).toUInt8, (0x80 + n % 0x40).toUInt8]
  else
    [(0xF0 + n / 0x40000).toUInt8, (0x80 + n / 0x1000 % 0x40).toUInt8,
      (0x80 + n / 0x40 % 0x40).toUInt8, (0x80 + n % 0x40).toUInt8]

def encode (cs : List Char) : List UInt8 :=
  cs.flatMap encodeChar

def ofString (s : String) : List UInt8 :=
  encode s.toList

def isTail (b : UInt8) : Bool :=
  0x80 ≤ b && b ≤ 0xBF

def isPair (a b : UInt8) : Bool :=
  0xC2 ≤ a && a ≤ 0xDF && isTail b

def isTriple (a b c : UInt8) : Bool :=
  isTail c && (a == 0xE0 && 0xA0 ≤ b && b ≤ 0xBF || 0xE1 ≤ a && a ≤ 0xEC && isTail b ||
    a == 0xED && 0x80 ≤ b && b ≤ 0x9F || 0xEE ≤ a && a ≤ 0xEF && isTail b)

def isQuadruple (a b c d : UInt8) : Bool :=
  isTail c && isTail d && (a == 0xF0 && 0x90 ≤ b && b ≤ 0xBF || 0xF1 ≤ a && a ≤ 0xF3 && isTail b ||
    a == 0xF4 && 0x80 ≤ b && b ≤ 0x8F)

def payload (b : UInt8) (base : Nat) : Nat :=
  b.toNat - base

def pair (a b : UInt8) : Char :=
  Char.ofNat (0x40 * payload a 0xC0 + payload b 0x80)

def triple (a b c : UInt8) : Char :=
  Char.ofNat (0x1000 * payload a 0xE0 + 0x40 * payload b 0x80 + payload c 0x80)

def quadruple (a b c d : UInt8) : Char :=
  Char.ofNat (0x40000 * payload a 0xF0 + 0x1000 * payload b 0x80 + 0x40 * payload c 0x80 + payload d 0x80)

/-- The characters of a byte sequence, or how many bytes stand before the first one that is out of place. -/
def decodeFrom (start : Nat) : List UInt8 → Except Nat (List Char)
  | [] => .ok []
  | a :: s =>
    if a < 0x80 then (Char.ofNat a.toNat :: ·) <$> decodeFrom (start + 1) s
    else
      match s with
      | [] => .error start
      | b :: s =>
        if isPair a b then (pair a b :: ·) <$> decodeFrom (start + 2) s
        else
          match s with
          | [] => .error start
          | c :: s =>
            if isTriple a b c then (triple a b c :: ·) <$> decodeFrom (start + 3) s
            else
              match s with
              | [] => .error start
              | d :: s =>
                if isQuadruple a b c d then (quadruple a b c d :: ·) <$> decodeFrom (start + 4) s
                else .error start

def decode (s : List UInt8) : Except Nat (List Char) :=
  decodeFrom 0 s

end GatedStore.Text.Utf8
