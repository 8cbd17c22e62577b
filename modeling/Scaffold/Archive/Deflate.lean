namespace Scaffold.Archive

def littleEndian : Nat → Nat → List UInt8
  | 0, _ => []
  | width + 1, n => UInt8.ofNat (n % 256) :: littleEndian width (n / 256)

def ofLittleEndian : List UInt8 → Nat
  | [] => 0
  | b :: bs => b.toNat + 256 * ofLittleEndian bs

namespace Deflate

def blockLimit : Nat := 65535

/-- A block of bytes: whether it is the last one, its size and the complement of its size. -/
def block (last : Bool) (bytes : ByteArray) : ByteArray :=
  ((if last then 1 else 0) :: littleEndian 2 bytes.size ++ littleEndian 2 (blockLimit - bytes.size)).toByteArray
    ++ bytes

def storeFrom (bytes : ByteArray) : Nat → Nat → ByteArray → ByteArray
  | 0, _, out => out
  | fuel + 1, start, out =>
    let stop := start + blockLimit
    if bytes.size ≤ stop then out ++ block true (bytes.extract start bytes.size)
    else storeFrom bytes fuel stop (out ++ block false (bytes.extract start stop))

def store (bytes : ByteArray) : ByteArray := storeFrom bytes (bytes.size / blockLimit + 1) 0 .empty

def restoreFrom (bytes : ByteArray) : Nat → Nat → ByteArray → Option ByteArray
  | 0, _, _ => none
  | fuel + 1, start, out =>
    let header := (bytes.extract start (start + 5)).toList
    let size := ofLittleEndian ((header.drop 1).take 2)
    let stop := start + 5 + size
    if header.length = 5 && ofLittleEndian (header.drop 3) = blockLimit - size && stop ≤ bytes.size then
      let out := out ++ bytes.extract (start + 5) stop
      if header.head? = some 1 then some out
      else if header.head? = some 0 then restoreFrom bytes fuel stop out
      else none
    else none

def restore? (bytes : ByteArray) : Option ByteArray := restoreFrom bytes (bytes.size + 1) 0 .empty

end Deflate

end Scaffold.Archive
