import Mathlib

/-!
# Streamed output archives

`aiter_entries_as_zip` writes a stored ZIP64 archive while the objects arrive.  A reader that starts
at the end records gets every entry back.
-/

namespace TrainingScheduler.Zip

abbrev Byte := UInt8

def littleEndian : ℕ → ℕ → List Byte
  | 0, _ => []
  | width + 1, value => .ofNat value :: littleEndian width (value / 256)

def number (bytes : List Byte) : ℕ := bytes.foldr (fun byte rest => byte.toNat + 256 * rest) 0

/-- `struct.pack` of fields with their widths, which raises for a value that does not fit. -/
def pack (fields : List (ℕ × ℕ)) : Option (List Byte) :=
  if ∀ field ∈ fields, field.2 < 256 ^ field.1 then
    some (fields.flatMap fun field => littleEndian field.1 field.2)
  else none

/-- The fields at the front of some bytes, and the bytes after them. -/
def unpack : List ℕ → List Byte → Option (List ℕ × List Byte)
  | [], bytes => some ([], bytes)
  | width :: widths, bytes =>
    if bytes.length < width then none
    else (unpack widths (bytes.drop width)).map fun (values, rest) =>
      (number (bytes.take width) :: values, rest)

@[simp]
theorem length_littleEndian (width value : ℕ) : (littleEndian width value).length = width := by
  induction width generalizing value with
  | zero => rfl
  | succ width induction => simp [littleEndian, induction]

private theorem number_littleEndian {width value : ℕ} (fits : value < 256 ^ width) :
    number (littleEndian width value) = value := by
  induction width generalizing value with
  | zero => simp_all [littleEndian, number]
  | succ width induction =>
    have less : value / 256 < 256 ^ width :=
      Nat.div_lt_of_lt_mul (by rwa [pow_succ, mul_comm] at fits)
    have rest := induction less
    rw [number] at rest
    simp only [littleEndian, number, List.foldr_cons, rest, UInt8.toNat_ofNat']
    omega

variable {bytes name data : List Byte} {stamp : ℕ × ℕ}

theorem length_pack {fields : List (ℕ × ℕ)} (packed : pack fields = some bytes) :
    bytes.length = (fields.map (·.1)).sum := by
  unfold pack at packed
  split_ifs at packed
  cases packed
  simp [List.length_flatMap]

theorem unpack_pack {fields : List (ℕ × ℕ)} (packed : pack fields = some bytes) (rest : List Byte) :
    unpack (fields.map (·.1)) (bytes ++ rest) = some (fields.map (·.2), rest) := by
  unfold pack at packed
  split_ifs at packed with fit
  cases packed
  induction fields with
  | nil => rfl
  | cons field fields induction =>
    obtain ⟨fits, later⟩ := List.forall_mem_cons.mp fit
    have width := length_littleEndian field.1 field.2
    rw [List.map_cons, unpack, List.flatMap_cons, List.append_assoc,
      if_neg (by rw [List.length_append, width]; omega), List.take_left' width,
      List.drop_left' width, induction later, number_littleEndian fits]
    rfl

theorem pack_append (first second : List (ℕ × ℕ)) (packed : pack (first ++ second) = some bytes) :
    ∃ front back, pack first = some front ∧ pack second = some back ∧ bytes = front ++ back := by
  unfold pack at packed ⊢
  split_ifs at packed with fit
  cases packed
  obtain ⟨fits, later⟩ := List.forall_mem_append.mp fit
  exact ⟨_, _, if_pos fits, if_pos later, List.flatMap_append⟩

def crcBit (crc : UInt32) : UInt32 :=
  if crc &&& 1 = 1 then (crc >>> 1) ^^^ 0xEDB88320 else crc >>> 1

def crcByte (crc : UInt32) (byte : Byte) : UInt32 := crcBit^[8] (crc ^^^ byte.toUInt32)

/-- `binascii.crc32(data, crc)`. -/
def crc32 (data : List Byte) (crc : UInt32) : UInt32 := ~~~data.foldl crcByte (~~~crc)

structure Moment where
  year : ℤ
  month : ℕ
  day : ℕ
  hour : ℕ
  minute : ℕ
  second : ℕ

/-- `_dos_time_date`. -/
def dosTimeDate (moment : Moment) : ℕ × ℕ :=
  (moment.hour % 32 * 2 ^ 11 + moment.minute % 64 * 2 ^ 5 + moment.second / 2 % 32,
    ((moment.year - 1980) % 128).toNat * 2 ^ 9 + moment.month % 16 * 2 ^ 5 + moment.day % 32)

/-- `_zip64_local_header`. -/
def zip64LocalHeader (name : List Byte) (stamp : ℕ × ℕ) : Option (List Byte) := do
  let extra ← pack [(2, 1), (2, 16), (8, 0), (8, 0)]
  let fixed ← pack [(4, 0x04034B50), (2, 45), (2, 0x808), (2, 0), (2, stamp.1), (2, stamp.2),
    (4, 0), (4, 0xFFFFFFFF), (4, 0xFFFFFFFF), (2, name.length), (2, extra.length)]
  some (fixed ++ name ++ extra)

/-- `_zip64_data_descriptor`. -/
def zip64DataDescriptor (crc : UInt32) (size : ℕ) : Option (List Byte) :=
  pack [(4, 0x08074B50), (4, crc.toNat), (8, size), (8, size)]

/-- `_zip64_central_entry`. -/
def zip64CentralEntry (name : List Byte) (crc : UInt32) (size headerOffset : ℕ) (stamp : ℕ × ℕ) :
    Option (List Byte) := do
  let extra ← pack [(2, 1), (2, 24), (8, size), (8, size), (8, headerOffset)]
  let fixed ← pack [(4, 0x02014B50), (2, 3 * 2 ^ 8 + 45), (2, 45), (2, 0x808), (2, 0), (2, stamp.1),
    (2, stamp.2), (4, crc.toNat), (4, 0xFFFFFFFF), (4, 0xFFFFFFFF), (2, name.length),
    (2, extra.length), (2, 0), (2, 0), (2, 0), (4, 0o600 * 2 ^ 16), (4, 0xFFFFFFFF)]
  some (fixed ++ name ++ extra)

/-- `_zip64_end_records`. -/
def zip64EndRecords (count size offset : ℕ) : Option (List Byte) := do
  let record ← pack [(4, 0x06064B50), (8, 44), (2, 3 * 2 ^ 8 + 45), (2, 45), (4, 0), (4, 0),
    (8, count), (8, count), (8, size), (8, offset)]
  let locator ← pack [(4, 0x07064B50), (4, 0), (8, offset + size), (4, 1)]
  let ending ← pack [(4, 0x06054B50), (2, 0), (2, 0), (2, min count 0xFFFF), (2, min count 0xFFFF),
    (4, 0xFFFFFFFF), (4, 0xFFFFFFFF), (2, 0)]
  some (record ++ locator ++ ending)

/-- An entry: its name, the chunks fetched for it, and whether its download ended well. -/
structure Entry where
  name : List Byte
  chunks : List (List Byte)
  complete : Bool

/-- What was yielded, its length, and the directory so far. -/
structure Writer where
  output : List (List Byte)
  offset : ℕ
  central : List (List Byte)

/-- The body of the loop over the chunks. -/
def countChunk (counts : UInt32 × ℕ × ℕ) (chunk : List Byte) : UInt32 × ℕ × ℕ :=
  (crc32 chunk counts.1, counts.2.1 + chunk.length, counts.2.2 + chunk.length)

/-- The body of the loop over the entries; `none` is the exception that aborts the stream. -/
def writeEntry (stamp : ℕ × ℕ) (writer : Writer) (entry : Entry) : Option Writer := do
  let header ← zip64LocalHeader entry.name stamp
  let (crc, written, offset) :=
    entry.chunks.foldl countChunk (0, 0, writer.offset + header.length)
  if entry.complete then
    let descriptor ← zip64DataDescriptor crc written
    let central ← zip64CentralEntry entry.name crc written writer.offset stamp
    some
      { output := writer.output ++ header :: entry.chunks ++ [descriptor]
        offset := offset + descriptor.length
        central := writer.central ++ [central] }
  else none

/-- `aiter_entries_as_zip`: what the stream yields, if it ends normally. -/
def aiterEntriesAsZip (moment : Moment) (entries : List Entry) : Option (List (List Byte)) := do
  let writer ← entries.foldlM (writeEntry (dosTimeDate moment)) ⟨[], 0, []⟩
  let blob := writer.central.flatten
  let ending ← zip64EndRecords writer.central.length blob.length writer.offset
  some (writer.output ++ (if blob.isEmpty then [] else [blob]) ++ [ending])

/-- The ZIP64 block of an extra area, which is a list of blocks with their kinds and lengths. -/
def zip64Block : ℕ → List Byte → Option (List Byte)
  | 0, _ => none
  | fuel + 1, extra =>
    match unpack [2, 2] extra with
    | some ([kind, length], rest) =>
      if kind = 1 then some (rest.take length) else zip64Block fuel (rest.drop length)
    | _ => none

/-- The values of 32-bit fields.  Those of the fields that hold the placeholder stand in the ZIP64
block, one behind the other. -/
def resolve : List ℕ → List Byte → Option (List ℕ)
  | [], _ => some []
  | field :: fields, block =>
    if field = 0xFFFFFFFF then
      match unpack [8] block with
      | some ([wide], rest) => (resolve fields rest).map (wide :: ·)
      | _ => none
    else (resolve fields block).map (field :: ·)

/-- The data behind a local header that agrees with the directory.  Bit 3 of the flags puts the
checksum and the sizes into a descriptor behind the data, wide if the header has a ZIP64 block. -/
def readLocal (archive name : List Byte) (flags crc size offset : ℕ) : Option (List Byte) :=
  match unpack [4, 2, 2, 2, 2, 2, 4, 4, 4, 2, 2] (archive.drop offset) with
  | some ([signature, _, localFlags, method, _, _, localCrc, compressed, uncompressed, nameLength,
        extraLength], rest) =>
    let block := zip64Block extraLength ((rest.drop nameLength).take extraLength)
    let data := (rest.drop (nameLength + extraLength)).take size
    let width := if block.isSome then 8 else 4
    let described :=
      if flags / 2 ^ 3 % 2 = 1 then
        (unpack [4, 4, width, width] (rest.drop (nameLength + extraLength + size))).map Prod.fst =
          some [0x08074B50, crc, size, size]
      else localCrc = crc ∧ resolve [uncompressed, compressed] (block.getD []) = some [size, size]
    if signature = 0x04034B50 ∧ localFlags = flags ∧ method = 0 ∧ rest.take nameLength = name ∧
        data.length = size ∧ (crc32 data 0).toNat = crc ∧ described then
      some data
    else none
  | _ => none

/-- The name is in UTF-8: bit 11 of the flags says so, or it has no other characters than ASCII. -/
def utf8Name (flags : ℕ) (name : List Byte) : Bool :=
  flags / 2 ^ 11 % 2 == 1 || name.all (· < 128)

/-- The entries of a central directory, which ends with the last of them.  An encrypted or
compressed entry is not read. -/
def readCentral (archive : List Byte) : ℕ → List Byte → Option (List (List Byte × List Byte))
  | 0, directory => if directory.isEmpty then some [] else none
  | count + 1, directory =>
    match unpack [4, 2, 2, 2, 2, 2, 2, 4, 4, 4, 2, 2, 2, 2, 2, 4, 4] directory with
    | some ([signature, _, _, flags, method, _, _, crc, compressed, uncompressed, nameLength,
          extraLength, commentLength, disk, _, _, headerOffset], rest) =>
        let name := rest.take nameLength
        let block := zip64Block extraLength ((rest.drop nameLength).take extraLength)
        match resolve [uncompressed, compressed, headerOffset] (block.getD []) with
        | some [size, stored, offset] =>
          if signature = 0x02014B50 ∧ flags % 2 = 0 ∧ method = 0 ∧ utf8Name flags name ∧ disk = 0 ∧
              stored = size ∧ nameLength + extraLength + commentLength ≤ rest.length then do
            let data ← readLocal archive name flags crc size offset
            let later ← readCentral archive count
              (rest.drop (nameLength + extraLength + commentLength))
            some ((name, data) :: later)
          else none
        | _ => none
    | _ => none

/-- The directory of the given size at the given offset. -/
def readDirectory (archive : List Byte) (count size offset : ℕ) :
    Option (List (List Byte × List Byte)) :=
  if offset + size ≤ archive.length then readCentral archive count ((archive.drop offset).take size)
  else none

/-- The count, size and offset in the ZIP64 record, which the locator in front of the end record
leads to and which ends at the locator. -/
def readZip64End (archive : List Byte) : Option (ℕ × ℕ × ℕ) :=
  match unpack [4, 4, 8, 4] (archive.drop (archive.length - 42)) with
  | some ([locator, locatorDisk, position, disks], _) =>
    match unpack [4, 8, 2, 2, 4, 4, 8, 8, 8, 8] (archive.drop position) with
    | some ([record, length, _, _, disk, start, here, count, size, offset], _) =>
      if locator = 0x07064B50 ∧ locatorDisk = 0 ∧ disks = 1 ∧ record = 0x06064B50 ∧ disk = 0 ∧
          start = 0 ∧ here = count ∧ position + 12 + length + 42 = archive.length then
        some (count, size, offset)
      else none
    | _ => none
  | _ => none

/-- A ZIP64 reader.  It starts at the end record, and takes the ZIP64 record for the fields that
hold their placeholder there. -/
def readArchive (archive : List Byte) : Option (List (List Byte × List Byte)) :=
  match unpack [4, 2, 2, 2, 2, 4, 4, 2] (archive.drop (archive.length - 22)) with
  | some ([signature, disk, start, here, count, size, offset, commentLength], _) =>
    if signature = 0x06054B50 ∧ disk = 0 ∧ start = 0 ∧ here = count ∧ commentLength = 0 then
      if count = 0xFFFF ∨ size = 0xFFFFFFFF ∨ offset = 0xFFFFFFFF then
        (readZip64End archive).bind fun (wideCount, wideSize, wideOffset) =>
          readDirectory archive (if count = 0xFFFF then wideCount else count)
            (if size = 0xFFFFFFFF then wideSize else size)
            (if offset = 0xFFFFFFFF then wideOffset else offset)
      else readDirectory archive count size offset
    else none
  | _ => none

private theorem foldl_countChunk (chunks : List (List Byte)) (crc : UInt32) (size offset : ℕ) :
    chunks.foldl countChunk (crc, size, offset) =
      (crc32 chunks.flatten crc, size + chunks.flatten.length, offset + chunks.flatten.length) := by
  induction chunks generalizing crc size offset with
  | nil => simp [crc32]
  | cons chunk chunks induction =>
    simp [countChunk, induction, crc32, Nat.add_assoc]

theorem zip64Block_of_pack (fields : List (ℕ × ℕ)) {extra : List Byte}
    (packed : pack ([(2, 1), (2, (fields.map (·.1)).sum)] ++ fields) = some extra) :
    ∃ block, zip64Block extra.length extra = some block ∧ pack fields = some block := by
  obtain ⟨front, block, packed_front, packed_block, rfl⟩ := pack_append _ _ packed
  have opened := unpack_pack packed_front block
  have front_length := length_pack packed_front
  simp only [List.map_cons, List.map_nil, List.sum_cons, List.sum_nil] at opened front_length
  obtain ⟨fuel, longer⟩ : ∃ fuel, (front ++ block).length = fuel + 1 :=
    ⟨(front ++ block).length - 1, by rw [List.length_append, front_length]; omega⟩
  refine ⟨block, ?_, packed_block⟩
  rw [longer, zip64Block, opened]
  simp [← length_pack packed_block]

private theorem resolve_of_pack (values : List ℕ) {block : List Byte}
    (packed : pack (values.map fun value => (8, value)) = some block) :
    resolve (values.map fun _ => 0xFFFFFFFF) block = some values := by
  induction values generalizing block with
  | nil => rfl
  | cons value values induction =>
    obtain ⟨front, back, packed_front, packed_back, rfl⟩ := pack_append [(8, value)] _ packed
    have opened := unpack_pack packed_front back
    simp only [List.map_cons, List.map_nil] at opened
    rw [List.map_cons, resolve, if_pos rfl, opened]
    dsimp only
    rw [induction packed_back, Option.map_some]

private theorem readLocal_written {header descriptor : List Byte}
    (headed : zip64LocalHeader name stamp = some header)
    (described : zip64DataDescriptor (crc32 data 0) data.length = some descriptor)
    (front rest : List Byte) :
    readLocal (front ++ (header ++ data ++ descriptor ++ rest)) name 0x808 (crc32 data 0).toNat
      data.length front.length = some data := by
  simp only [zip64LocalHeader, Option.bind_eq_bind, Option.bind_eq_some_iff] at headed
  obtain ⟨extra, packed_extra, fixed, packed, headed⟩ := headed
  cases headed
  have fields := unpack_pack packed (name ++ (extra ++ (data ++ (descriptor ++ rest))))
  have descriptors := unpack_pack described rest
  obtain ⟨block, blocks, -⟩ := zip64Block_of_pack [(8, 0), (8, 0)] packed_extra
  simp only [List.map_cons, List.map_nil] at fields descriptors
  have past : (name ++ (extra ++ (data ++ (descriptor ++ rest)))).drop
      (name.length + extra.length) = data ++ (descriptor ++ rest) := by
    rw [← List.drop_drop, List.drop_left, List.drop_left]
  rw [readLocal, List.drop_left]
  simp only [List.append_assoc, fields, past, ← List.drop_drop, List.drop_left, descriptors,
    List.take_left, blocks, and_self, if_true, Option.isSome_some, Option.map_some, Nat.reducePow,
    Nat.reduceDiv, Nat.reduceMod]

private theorem readCentral_written {central : List Byte} {crc : UInt32} {size offset : ℕ}
    (listed : zip64CentralEntry name crc size offset stamp = some central)
    (archive rest : List Byte) (count : ℕ)
    (read : readLocal archive name 0x808 crc.toNat size offset = some data) :
    readCentral archive (count + 1) (central ++ rest) =
      (readCentral archive count rest).map ((name, data) :: ·) := by
  obtain ⟨extra, packed_extra, listed⟩ := Option.bind_eq_some_iff.mp listed
  obtain ⟨fixed, packed, listed⟩ := Option.bind_eq_some_iff.mp listed
  cases listed
  have fields := unpack_pack packed (name ++ (extra ++ rest))
  obtain ⟨block, blocks, packed_block⟩ :=
    zip64Block_of_pack [(8, size), (8, size), (8, offset)] packed_extra
  have resolved : resolve [0xFFFFFFFF, 0xFFFFFFFF, 0xFFFFFFFF] block = some [size, size, offset] :=
    resolve_of_pack [size, size, offset] packed_block
  simp only [List.map_cons, List.map_nil] at fields
  rw [readCentral]
  simp only [List.append_assoc, fields, List.drop_left, List.take_left, blocks, Option.getD_some,
    resolved, Nat.add_zero, ← List.drop_drop, read, utf8Name, Nat.reducePow, Nat.reduceDiv,
    Nat.reduceMod, beq_self_eq_true, Bool.true_or, List.length_append, true_and]
  rw [if_pos (by omega)]
  cases readCentral archive count rest <;> rfl

private theorem readCentral_of_foldlM {entries : List Entry} {writer last : Writer}
    (wrote : entries.foldlM (writeEntry stamp) writer = some last) :
    ∃ output central, last.output = writer.output ++ output ∧
      last.central = writer.central ++ central ∧ central.length = entries.length ∧
      last.offset = writer.offset + output.flatten.length ∧
      ∀ front tail : List Byte, front.length = writer.offset →
        readCentral (front ++ (output.flatten ++ tail)) entries.length central.flatten =
          some (entries.map fun entry => (entry.name, entry.chunks.flatten)) := by
  induction entries generalizing writer with
  | nil =>
    cases wrote
    exact ⟨[], [], by simp, by simp, rfl, by simp, fun _ _ _ => rfl⟩
  | cons entry entries induction =>
    obtain ⟨middle, first, wrote⟩ := Option.bind_eq_some_iff.mp wrote
    obtain ⟨output, central, outputs, centrals, count, offset, reads⟩ := induction wrote
    obtain ⟨header, headed, first⟩ := Option.bind_eq_some_iff.mp first
    rw [foldl_countChunk] at first
    simp only [Nat.zero_add] at first
    split_ifs at first
    obtain ⟨descriptor, described, first⟩ := Option.bind_eq_some_iff.mp first
    obtain ⟨listing, listed, first⟩ := Option.bind_eq_some_iff.mp first
    cases first
    refine ⟨header :: entry.chunks ++ [descriptor] ++ output, listing :: central,
      by simp [outputs], by simp [centrals], by simp [count], by simp [offset]; omega,
      fun front tail start => ?_⟩
    have found := readLocal_written headed described front (output.flatten ++ tail)
    rw [start] at found
    have later := reads (front ++ (header ++ entry.chunks.flatten ++ descriptor)) tail
      (by simp [start]; omega)
    simp only [List.append_assoc] at found later
    simp only [List.cons_append, List.flatten_cons, List.flatten_append, List.nil_append,
      List.append_assoc, List.length_cons, List.map_cons]
    rw [readCentral_written listed _ _ _ found, later, Option.map_some]

private theorem readArchive_of_endRecords {count : ℕ} {body directory ending : List Byte}
    (packed : zip64EndRecords count directory.length body.length = some ending) :
    readArchive (body ++ (directory ++ ending)) =
      readCentral (body ++ (directory ++ ending)) count directory := by
  simp only [zip64EndRecords, Option.bind_eq_bind, Option.bind_eq_some_iff] at packed
  obtain ⟨record, packed_record, locator, packed_locator, final, packed_final, same⟩ := packed
  cases same
  have records := unpack_pack packed_record (locator ++ final)
  have locators := unpack_pack packed_locator final
  have finals := unpack_pack packed_final []
  have record_length := length_pack packed_record
  have locator_length := length_pack packed_locator
  have final_length := length_pack packed_final
  simp only [List.map_cons, List.map_nil, List.sum_cons, List.sum_nil, Nat.reduceAdd]
    at records locators finals record_length locator_length final_length
  generalize shape : body ++ (directory ++ (record ++ locator ++ final)) = archive
  have whole : archive.length = body.length + directory.length + 98 := by
    rw [← shape]
    simp only [List.length_append, record_length, locator_length, final_length]
    omega
  have last : archive.drop (archive.length - 22) = final ++ [] := by
    rw [← shape, ← List.append_assoc, ← List.append_assoc, List.append_nil]
    exact List.drop_left' (by simp only [List.length_append, final_length]; omega)
  have before : archive.drop (archive.length - 42) = locator ++ final := by
    rw [← shape, ← List.append_assoc, List.append_assoc record, ← List.append_assoc]
    exact List.drop_left' (by simp only [List.length_append, final_length, locator_length]; omega)
  have position : archive.drop (body.length + directory.length) = record ++ (locator ++ final) := by
    rw [← shape, ← List.drop_drop, List.drop_left, List.drop_left, List.append_assoc]
  have start : archive.drop body.length = directory ++ (record ++ locator ++ final) := by
    rw [← shape, List.drop_left]
  have zip64 : readZip64End archive = some (count, directory.length, body.length) := by
    have ends : body.length + directory.length + 12 + 44 + 42 = archive.length := by omega
    unfold readZip64End
    simp only [before, locators, position, records, ends, and_self, if_true]
  have counted : (if min count 0xFFFF = 0xFFFF then count else min count 0xFFFF) = count := by
    split_ifs <;> omega
  unfold readArchive
  simp only [last, finals, and_self, if_true, or_true, zip64, Option.bind_some, counted]
  rw [readDirectory, if_pos (by omega), start, List.take_left]

/-- The streamed archive round-trips: a reader recovers the names of the entries in order and the
bytes that were fetched for each, past the checks of sizes, checksums and offsets. -/
theorem streamed_archive_round_trip (moment : Moment) (entries : List Entry)
    (yielded : List (List Byte)) (ended : aiterEntriesAsZip moment entries = some yielded) :
    readArchive yielded.flatten =
      some (entries.map fun entry => (entry.name, entry.chunks.flatten)) := by
  obtain ⟨writer, wrote, ended⟩ := Option.bind_eq_some_iff.mp ended
  obtain ⟨ending, packed, ended⟩ := Option.bind_eq_some_iff.mp ended
  obtain ⟨output, central, outputs, centrals, count, offset, reads⟩ := readCentral_of_foldlM wrote
  simp only [List.nil_append, Nat.zero_add] at outputs centrals offset
  have shape : yielded.flatten = output.flatten ++ (central.flatten ++ ending) := by
    cases ended
    rw [outputs, centrals]
    split_ifs with empty
    · simp [List.isEmpty_iff.mp empty]
    · simp
  rw [centrals, offset] at packed
  rw [shape, readArchive_of_endRecords packed, count]
  exact reads [] _ rfl

/-- Two entries, one fetched in two chunks and one empty. -/
theorem two_entries_recovered :
    (aiterEntriesAsZip ⟨2024, 5, 17, 9, 30, 12⟩
      [⟨[97], [[1, 2], [3]], true⟩, ⟨[98, 99], [], true⟩]).map (fun yielded =>
        readArchive yielded.flatten) = some (some [([97], [1, 2, 3]), ([98, 99], [])]) := by
  cases ended : aiterEntriesAsZip ⟨2024, 5, 17, 9, 30, 12⟩
      [⟨[97], [[1, 2], [3]], true⟩, ⟨[98, 99], [], true⟩] with
  | none => exact absurd ended (by decide +kernel)
  | some yielded => exact congrArg some (streamed_archive_round_trip _ _ _ ended)

end TrainingScheduler.Zip
