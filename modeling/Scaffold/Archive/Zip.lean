import Scaffold.Archive.Deflate

namespace Scaffold.Archive

def polynomial : UInt32 := 0xEDB88320

def shiftBit (c : UInt32) : UInt32 := if c &&& 1 = 1 then (c >>> 1) ^^^ polynomial else c >>> 1

def shiftBits : Nat → UInt32 → UInt32
  | 0, c => c
  | n + 1, c => shiftBits n (shiftBit c)

def shiftByte (c : UInt32) (b : UInt8) : UInt32 := shiftBits 8 (c ^^^ b.toUInt32)

def checksum (bytes : ByteArray) : UInt32 := bytes.foldl shiftByte 0xFFFFFFFF ^^^ 0xFFFFFFFF

structure Entry where
  name : String
  content : ByteArray

def method : String := "Deflated"

namespace Zip

def fields (values : List (Nat × Nat)) : ByteArray :=
  (values.flatMap fun (width, n) => littleEndian width n).toByteArray

/-- Names that are not plain are marked as encoded text. -/
def flags (e : Entry) : Nat := if e.name.toList.all fun c => c.toNat < 128 then 0 else 2048

/-- What both records of an entry say: version, flags, method, time, date, checksum, sizes and the length
of the name. Times are not kept. -/
def description (e : Entry) (packed : ByteArray) : List (Nat × Nat) :=
  [(2, 20), (2, flags e), (2, 8), (2, 0), (2, 33), (4, (checksum e.content).toNat), (4, packed.size),
    (4, e.content.size), (2, e.name.utf8ByteSize), (2, 0)]

def localRecord (e : Entry) : ByteArray :=
  let packed := Deflate.store e.content
  fields ((4, 0x04034b50) :: description e packed) ++ e.name.toUTF8 ++ packed

def directoryRecord (e : Entry) (offset : Nat) : ByteArray :=
  fields ((4, 0x02014b50) :: (2, 788) :: description e (Deflate.store e.content) ++
    [(2, 0), (2, 0), (2, 0), (4, 0o100644 * 65536), (4, offset)]) ++ e.name.toUTF8

def endRecord (count size offset : Nat) : ByteArray :=
  fields [(4, 0x06054b50), (2, 0), (2, 0), (2, count), (2, count), (4, size), (4, offset), (2, 0)]

def records : List Entry → ByteArray → ByteArray → ByteArray × ByteArray
  | [], contents, directory => (contents, directory)
  | e :: es, contents, directory =>
    records es (contents ++ localRecord e) (directory ++ directoryRecord e contents.size)

def encode (entries : List Entry) : ByteArray :=
  let (contents, directory) := records entries .empty .empty
  contents ++ directory ++ endRecord entries.length directory.size contents.size

def number (bytes : ByteArray) (start width : Nat) : Nat :=
  ofLittleEndian (bytes.extract start (start + width)).toList

def text? (bytes : ByteArray) (start size : Nat) : Option String :=
  String.fromUTF8? (bytes.extract start (start + size))

def content? (bytes : ByteArray) (offset size : Nat) : Option ByteArray :=
  if number bytes offset 4 = 0x04034b50 && number bytes (offset + 8) 2 = 8 then
    let start := offset + 30 + number bytes (offset + 26) 2 + number bytes (offset + 28) 2
    Deflate.restore? (bytes.extract start (start + size))
  else none

def entries? (bytes : ByteArray) : Nat → Nat → Option (List Entry)
  | 0, _ => some []
  | count + 1, start =>
    if number bytes start 4 = 0x02014b50 then do
      let size := number bytes (start + 28) 2
      let name ← text? bytes (start + 46) size
      let content ← content? bytes (number bytes (start + 42) 4) (number bytes (start + 20) 4)
      let rest ← entries? bytes count
        (start + 46 + size + number bytes (start + 30) 2 + number bytes (start + 32) 2)
      return ⟨name, content⟩ :: rest
    else none

def decode? (bytes : ByteArray) : Option (List Entry) :=
  let last := bytes.size - 22
  if 22 ≤ bytes.size && number bytes last 4 = 0x06054b50 then
    entries? bytes (number bytes (last + 10) 2) (number bytes (last + 16) 4)
  else none

end Zip

end Scaffold.Archive
