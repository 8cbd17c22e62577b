import Scaffold.Archive.Zip

namespace Scaffold.Archive

@[simp] theorem length_littleEndian (width n : Nat) : (littleEndian width n).length = width := by
  induction width generalizing n with
  | zero => rfl
  | succ width ih => simp [littleEndian, ih]

def capacity : Nat → Nat
  | 0 => 1
  | width + 1 => 256 * capacity width

theorem ofLittleEndian_littleEndian {width n : Nat} (h : n < capacity width) :
    ofLittleEndian (littleEndian width n) = n := by
  induction width generalizing n with
  | zero =>
      obtain rfl : n = 0 := Nat.lt_one_iff.mp h
      rfl
  | succ width ih =>
      have hdiv : n / 256 < capacity width := Nat.div_lt_of_lt_mul h
      have hbyte : (UInt8.ofNat (n % 256)).toNat = n % 256 := by simp
      rw [littleEndian, ofLittleEndian, ih hdiv, hbyte]
      omega

theorem toList_loop (bytes : ByteArray) (i : Nat) (out : List UInt8) :
    ByteArray.toList.loop bytes i out = out.reverse ++ bytes.data.toList.drop i := by
  fun_induction ByteArray.toList.loop bytes i out with
  | case1 i out hlt ih =>
      have hlen : i < bytes.data.toList.length := by simpa using hlt
      have hget : bytes.get! i = bytes.data.toList[i] := by
        have hdata : bytes.get! i = bytes.data[i]! := by cases bytes; rfl
        rw [hdata, getElem!_pos bytes.data i hlt]
        rfl
      rw [ih, List.drop_eq_getElem_cons hlen, hget]
      simp
  | case2 i out hle =>
      have hlen : bytes.data.toList.length ≤ i := by simpa using hle
      simp [List.drop_eq_nil_of_le hlen]

@[simp] theorem toList_toByteArray (bs : List UInt8) : bs.toByteArray.toList = bs := by
  rw [ByteArray.toList, toList_loop]
  simp

def Holds (bytes : ByteArray) (start : Nat) (part : ByteArray) : Prop :=
  bytes.extract start (start + part.size) = part

section

variable {bytes a b : ByteArray} {start : Nat}

theorem holds_self (bytes : ByteArray) : Holds bytes 0 bytes := by
  rw [Holds, Nat.zero_add]
  exact ByteArray.extract_zero_size

theorem Holds.left (h : Holds bytes start (a ++ b)) : Holds bytes start a := by
  have hpart := congrArg (fun part => part.extract 0 a.size) h
  simp only [ByteArray.extract_extract, ByteArray.size_append] at hpart
  rw [ByteArray.extract_append_eq_left rfl] at hpart
  rwa [Holds, ← Nat.add_zero start, Nat.add_assoc, Nat.zero_add,
    ← Nat.min_eq_left (Nat.add_le_add_left (Nat.le_add_right a.size b.size) start)]

theorem Holds.right (h : Holds bytes start (a ++ b)) : Holds bytes (start + a.size) b := by
  have hpart := congrArg (fun part => part.extract a.size (a.size + b.size)) h
  simp only [ByteArray.extract_extract, ByteArray.size_append, Nat.min_self] at hpart
  rw [ByteArray.extract_append_eq_right rfl rfl] at hpart
  rwa [Holds, Nat.add_assoc]

theorem Holds.le_size (h : Holds bytes start a) (ha : 0 < a.size) : start + a.size ≤ bytes.size := by
  have hsize := congrArg ByteArray.size h
  rw [ByteArray.size_extract] at hsize
  omega

end

namespace Deflate

def header (last : Bool) (size : Nat) : List UInt8 :=
  (if last then 1 else 0) :: littleEndian 2 size ++ littleEndian 2 (blockLimit - size)

theorem block_eq (last : Bool) (piece : ByteArray) :
    block last piece = (header last piece.size).toByteArray ++ piece := rfl

theorem length_header (last : Bool) (size : Nat) : (header last size).length = 5 := by simp [header]

theorem size_block (last : Bool) (piece : ByteArray) : (block last piece).size = 5 + piece.size := by
  rw [block_eq, ByteArray.size_append, List.size_toByteArray, length_header]

theorem storeFrom_eq_append (bytes : ByteArray) (fuel start : Nat) (out : ByteArray) :
    storeFrom bytes fuel start out = out ++ storeFrom bytes fuel start .empty := by
  induction fuel generalizing start out with
  | zero => simp [storeFrom]
  | succ fuel ih =>
      rw [storeFrom, storeFrom]
      split
      · simp
      · rw [ih, ih _ (ByteArray.empty ++ _)]
        simp [ByteArray.append_assoc]

variable {packed : ByteArray}

theorem restoreFrom_block {last : Bool} {piece : ByteArray} (hpiece : piece.size ≤ blockLimit) {start : Nat}
    (h : Holds packed start (block last piece)) (fuel : Nat) (out : ByteArray) :
    restoreFrom packed (fuel + 1) start out =
      if last then some (out ++ piece)
      else restoreFrom packed fuel (start + (block last piece).size) (out ++ piece) := by
  have hstop : start + 5 + piece.size ≤ packed.size := by
    have hle := h.le_size (by rw [size_block]; omega)
    rwa [size_block, ← Nat.add_assoc] at hle
  rw [size_block, ← Nat.add_assoc]
  rw [block_eq] at h
  have hheader : (packed.extract start (start + 5)).toList = header last piece.size := by
    have hleft := h.left
    rw [Holds, List.size_toByteArray, length_header] at hleft
    rw [hleft, toList_toByteArray]
  have hbytes : packed.extract (start + 5) (start + 5 + piece.size) = piece := by
    have hright := h.right
    rwa [List.size_toByteArray, length_header] at hright
  have hsize : ofLittleEndian (((header last piece.size).drop 1).take 2) = piece.size := by
    have htake : ((header last piece.size).drop 1).take 2 = littleEndian 2 piece.size := rfl
    rw [htake, ofLittleEndian_littleEndian (Nat.lt_succ_of_le hpiece)]
  have hcomplement : ofLittleEndian ((header last piece.size).drop 3) = blockLimit - piece.size := by
    have hdrop : (header last piece.size).drop 3 = littleEndian 2 (blockLimit - piece.size) := rfl
    rw [hdrop, ofLittleEndian_littleEndian (Nat.lt_succ_of_le (Nat.sub_le _ _))]
  rw [restoreFrom]
  simp only [hheader, hsize, hcomplement, length_header, hbytes, hstop, decide_true, Bool.and_self, if_true]
  cases last <;> simp [header]

theorem restoreFrom_storeFrom {bytes : ByteArray} (fuel : Nat) {start : Nat} {more : Nat} {out : ByteArray}
    {place : Nat} (hfuel : bytes.size < start + fuel * blockLimit) (hstart : start ≤ bytes.size)
    (h : Holds packed place (storeFrom bytes fuel start .empty))
    (hmore : (storeFrom bytes fuel start .empty).size ≤ more) :
    restoreFrom packed more place out = some (out ++ bytes.extract start bytes.size) := by
  -- on the fuel of the writer, one for a block: the reader has one for a byte, which is always more
  induction fuel generalizing start more out place with
  | zero => omega
  | succ fuel ih =>
      rw [storeFrom] at h hmore
      split at h
      · next hlast =>
          rw [if_pos hlast, ByteArray.empty_append, size_block] at hmore
          rw [ByteArray.empty_append] at h
          obtain ⟨more, rfl⟩ : ∃ n, more = n + 1 := ⟨more - 1, by omega⟩
          have hpiece : (bytes.extract start bytes.size).size ≤ blockLimit := by
            rw [ByteArray.size_extract]
            omega
          rw [restoreFrom_block hpiece h, if_pos rfl]
      · next hlast =>
          rw [if_neg hlast, storeFrom_eq_append, ByteArray.empty_append, ByteArray.size_append, size_block] at hmore
          rw [storeFrom_eq_append, ByteArray.empty_append] at h
          obtain ⟨more, rfl⟩ : ∃ n, more = n + 1 := ⟨more - 1, by omega⟩
          have hpiece : (bytes.extract start (start + blockLimit)).size ≤ blockLimit := by
            rw [ByteArray.size_extract]
            omega
          rw [restoreFrom_block hpiece h.left, if_neg (by simp)]
          rw [ih (by rw [Nat.add_one_mul] at hfuel; omega) (by omega) h.right (by omega),
            ByteArray.append_assoc, ByteArray.extract_append_extract, Nat.min_eq_left (Nat.le_add_right _ _),
            Nat.max_eq_right (by omega)]

/-- Stored blocks give back their bytes. -/
theorem restore?_store (bytes : ByteArray) : restore? (store bytes) = some bytes := by
  have hfuel : bytes.size < 0 + (bytes.size / blockLimit + 1) * blockLimit := by
    rw [Nat.zero_add, Nat.mul_comm]
    exact Nat.lt_mul_div_succ _ (by decide)
  rw [restore?, store, restoreFrom_storeFrom _ hfuel (Nat.zero_le _) (holds_self _) (Nat.le_add_right _ 1)]
  simp

end Deflate

namespace Zip

def widths : List (Nat × Nat) → Nat
  | [] => 0
  | (width, _) :: values => width + widths values

theorem fields_append (values more : List (Nat × Nat)) :
    fields (values ++ more) = fields values ++ fields more := by
  simp [fields, List.toByteArray_append]

theorem fields_cons (width n : Nat) (values : List (Nat × Nat)) :
    fields ((width, n) :: values) = (littleEndian width n).toByteArray ++ fields values := by
  simp [fields, List.toByteArray_append]

theorem size_fields (values : List (Nat × Nat)) : (fields values).size = widths values := by
  induction values with
  | nil => rfl
  | cons value values ih =>
      obtain ⟨width, n⟩ := value
      simp [fields_cons, widths, ih]

variable {bytes : ByteArray} {start offset width n : Nat} {e : Entry}

theorem number_field {values : List (Nat × Nat)} (i : Nat) {place : Nat} (h : Holds bytes start (fields values))
    (hi : values[i]? = some (width, n)) (hplace : widths (values.take i) = place) (hn : n < capacity width) :
    number bytes (start + place) width = n := by
  obtain ⟨hlt, hget⟩ := List.getElem?_eq_some_iff.mp hi
  have hsplit : values = values.take i ++ (width, n) :: values.drop (i + 1) := by
    rw [← hget, ← List.drop_eq_getElem_cons hlt, List.take_append_drop]
  rw [hsplit, fields_append, fields_cons] at h
  have hfield := h.right.left
  rw [Holds, List.size_toByteArray, length_littleEndian, size_fields, hplace] at hfield
  rw [number, hfield, toList_toByteArray, ofLittleEndian_littleEndian hn]

theorem text?_eq_some {name : String} (h : Holds bytes start name.toUTF8) :
    text? bytes start name.utf8ByteSize = some name := by
  have hextract : bytes.extract start (start + name.utf8ByteSize) = name.toUTF8 := h
  have hvalid : name.toUTF8.IsValidUTF8 := name.isValidUTF8
  rw [text?, hextract, String.fromUTF8?, dif_pos hvalid]
  rfl

def localFields (e : Entry) : List (Nat × Nat) :=
  [(4, 0x04034b50), (2, 20), (2, flags e), (2, 8), (2, 0), (2, 33), (4, (checksum e.content).toNat),
    (4, (Deflate.store e.content).size), (4, e.content.size), (2, e.name.utf8ByteSize), (2, 0)]

def directoryFields (e : Entry) (offset : Nat) : List (Nat × Nat) :=
  [(4, 0x02014b50), (2, 788), (2, 20), (2, flags e), (2, 8), (2, 0), (2, 33),
    (4, (checksum e.content).toNat), (4, (Deflate.store e.content).size), (4, e.content.size),
    (2, e.name.utf8ByteSize), (2, 0), (2, 0), (2, 0), (2, 0), (4, 0o100644 * 65536), (4, offset)]

theorem localRecord_eq (e : Entry) :
    localRecord e = fields (localFields e) ++ e.name.toUTF8 ++ Deflate.store e.content := rfl

theorem directoryRecord_eq (e : Entry) (offset : Nat) :
    directoryRecord e offset = fields (directoryFields e offset) ++ e.name.toUTF8 := rfl

theorem size_localFields (e : Entry) : (fields (localFields e)).size = 30 := by
  simp [size_fields, localFields, widths]

theorem size_directoryFields (e : Entry) (offset : Nat) : (fields (directoryFields e offset)).size = 46 := by
  simp [size_fields, directoryFields, widths]

theorem size_localRecord (e : Entry) :
    (localRecord e).size = 30 + e.name.utf8ByteSize + (Deflate.store e.content).size := by
  rw [localRecord_eq, ByteArray.size_append, ByteArray.size_append, size_localFields]
  rfl

theorem size_directoryRecord (e : Entry) (offset : Nat) :
    (directoryRecord e offset).size = 46 + e.name.utf8ByteSize := by
  rw [directoryRecord_eq, ByteArray.size_append, size_directoryFields]
  rfl

theorem content?_localRecord (h : Holds bytes offset (localRecord e)) (hname : e.name.utf8ByteSize < 65536) :
    content? bytes offset (Deflate.store e.content).size = some e.content := by
  rw [localRecord_eq] at h
  have hsignature : number bytes (offset + 0) 4 = 0x04034b50 :=
    number_field 0 h.left.left rfl (by simp [localFields, widths]) (by decide)
  have hmethod : number bytes (offset + 8) 2 = 8 :=
    number_field 3 h.left.left rfl (by simp [localFields, widths]) (by decide)
  have hsize : number bytes (offset + 26) 2 = e.name.utf8ByteSize :=
    number_field 9 h.left.left rfl (by simp [localFields, widths]) hname
  have hextra : number bytes (offset + 28) 2 = 0 :=
    number_field 10 h.left.left rfl (by simp [localFields, widths]) (by decide)
  have hpacked : bytes.extract (offset + 30 + e.name.utf8ByteSize)
      (offset + 30 + e.name.utf8ByteSize + (Deflate.store e.content).size) = Deflate.store e.content := by
    have hright := h.right
    rw [ByteArray.size_append, size_localFields, ← Nat.add_assoc] at hright
    exact hright
  rw [content?]
  simp only [Nat.add_zero] at hsignature
  simp only [hsignature, hmethod, hsize, hextra, Nat.add_zero, hpacked, decide_true, Bool.and_self, if_true]
  exact Deflate.restore?_store e.content

theorem entries?_directoryRecord (h : Holds bytes start (directoryRecord e offset))
    (hlocal : Holds bytes offset (localRecord e)) (hname : e.name.utf8ByteSize < 65536)
    (hoffset : offset + (localRecord e).size < 4294967296) (count : Nat) :
    entries? bytes (count + 1) start =
      (entries? bytes count (start + (directoryRecord e offset).size)).map (e :: ·) := by
  have hpacked : (Deflate.store e.content).size < 4294967296 := by
    rw [size_localRecord] at hoffset
    omega
  rw [size_directoryRecord, ← Nat.add_assoc]
  rw [directoryRecord_eq] at h
  have hsignature : number bytes (start + 0) 4 = 0x02014b50 :=
    number_field 0 h.left rfl (by simp [directoryFields, widths]) (by decide)
  have hsize : number bytes (start + 20) 4 = (Deflate.store e.content).size :=
    number_field 8 h.left rfl (by simp [directoryFields, widths]) hpacked
  have hlength : number bytes (start + 28) 2 = e.name.utf8ByteSize :=
    number_field 10 h.left rfl (by simp [directoryFields, widths]) hname
  have hextra : number bytes (start + 30) 2 = 0 :=
    number_field 11 h.left rfl (by simp [directoryFields, widths]) (by decide)
  have hcomment : number bytes (start + 32) 2 = 0 :=
    number_field 12 h.left rfl (by simp [directoryFields, widths]) (by decide)
  have hplace : number bytes (start + 42) 4 = offset :=
    number_field 16 h.left rfl (by simp [directoryFields, widths]) (Nat.lt_of_add_right_lt hoffset)
  have htext : text? bytes (start + 46) e.name.utf8ByteSize = some e.name := by
    have hright := h.right
    rw [size_directoryFields] at hright
    exact text?_eq_some hright
  rw [entries?]
  simp only [Nat.add_zero] at hsignature
  simp only [hsignature, hlength, htext, hplace, hsize, hextra, hcomment, if_true, Nat.add_zero,
    content?_localRecord hlocal hname]
  cases entries? bytes count (start + 46 + e.name.utf8ByteSize) <;> rfl

def contentsOf : List Entry → ByteArray
  | [] => .empty
  | e :: es => localRecord e ++ contentsOf es

def directoryOf : Nat → List Entry → ByteArray
  | _, [] => .empty
  | offset, e :: es => directoryRecord e offset ++ directoryOf (offset + (localRecord e).size) es

theorem records_eq (es : List Entry) (contents directory : ByteArray) :
    records es contents directory = (contents ++ contentsOf es, directory ++ directoryOf contents.size es) := by
  induction es generalizing contents directory with
  | nil => simp [records, contentsOf, directoryOf]
  | cons e es ih => simp [records, ih, contentsOf, directoryOf, ByteArray.append_assoc]

theorem encode_eq (entries : List Entry) :
    encode entries = contentsOf entries ++ directoryOf 0 entries ++
      endRecord entries.length (directoryOf 0 entries).size (contentsOf entries).size := by
  simp [encode, records_eq]

def endFields (count size offset : Nat) : List (Nat × Nat) :=
  [(4, 0x06054b50), (2, 0), (2, 0), (2, count), (2, count), (4, size), (4, offset), (2, 0)]

theorem endRecord_eq (count size offset : Nat) :
    endRecord count size offset = fields (endFields count size offset) := rfl

theorem size_endRecord (count size offset : Nat) : (endRecord count size offset).size = 22 := by
  simp [endRecord_eq, size_fields, endFields, widths]

theorem entries?_directoryOf {es : List Entry} (hcontents : Holds bytes offset (contentsOf es))
    (hdirectory : Holds bytes start (directoryOf offset es))
    (hnames : ∀ e ∈ es, e.name.utf8ByteSize < 65536) (hoffset : offset + (contentsOf es).size < 4294967296) :
    entries? bytes es.length start = some es := by
  induction es generalizing start offset with
  | nil => rfl
  | cons e es ih =>
      rw [contentsOf, ByteArray.size_append, ← Nat.add_assoc] at hoffset
      rw [List.length_cons, entries?_directoryRecord hdirectory.left hcontents.left (hnames e (by simp)) (by omega),
        ih hcontents.right hdirectory.right (fun e he => hnames e (by simp [he])) hoffset]
      rfl

/-- Entries that the numbers of the format have room for. -/
structure Fits (entries : List Entry) : Prop where
  count : entries.length < 65536
  names : ∀ e ∈ entries, e.name.utf8ByteSize < 65536
  size : (encode entries).size < 4294967296

/-- An archive gives back its entries. -/
theorem decode?_encode {entries : List Entry} (h : Fits entries) : decode? (encode entries) = some entries := by
  have hself : Holds (encode entries) 0 (contentsOf entries ++ directoryOf 0 entries ++
      fields (endFields entries.length (directoryOf 0 entries).size (contentsOf entries).size)) := by
    rw [← endRecord_eq, ← encode_eq]
    exact holds_self _
  have hsize : (encode entries).size = (contentsOf entries).size + (directoryOf 0 entries).size + 22 := by
    rw [encode_eq, ByteArray.size_append, ByteArray.size_append, size_endRecord]
  have hfits := h.size
  have hcontents : (contentsOf entries).size < 4294967296 := by omega
  obtain ⟨last, hlast⟩ : ∃ last, last = (encode entries).size - 22 := ⟨_, rfl⟩
  have hend := hself.right
  rw [ByteArray.size_append, Nat.zero_add, ← Nat.add_sub_cancel (_ + _) 22, ← hsize, ← hlast] at hend
  have hsignature : number (encode entries) (last + 0) 4 = 0x06054b50 :=
    number_field 0 hend rfl (by simp [widths]) (by decide)
  have hcount : number (encode entries) (last + 10) 2 = entries.length :=
    number_field 4 hend rfl (by simp [endFields, widths]) h.count
  have hplace : number (encode entries) (last + 16) 4 = (contentsOf entries).size :=
    number_field 6 hend rfl (by simp [endFields, widths]) hcontents
  have hentries : entries? (encode entries) entries.length (0 + (contentsOf entries).size) = some entries :=
    entries?_directoryOf hself.left.left hself.left.right h.names (by omega)
  have hlarge : 22 ≤ (encode entries).size := by omega
  rw [Nat.add_zero] at hsignature
  rw [Nat.zero_add] at hentries
  simp only [decode?, ← hlast, hsignature, hcount, hplace, hlarge, decide_true, Bool.and_self, if_true, hentries]

end Zip

end Scaffold.Archive
