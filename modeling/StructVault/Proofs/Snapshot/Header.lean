import StructVault.Proofs.Bytes.LittleEndian
import StructVault.Snapshot.Header

/-!
# Header records

The sixteen bytes of a header and its fields determine each other: `Header.ofRecord_toBytes`
reads the fields back, and `Header.toBytes_ofRecord` writes back any sixteen bytes that start
with the mark. Hence a file with an accepted header is the bytes of that header and a body
(`Header.parse_eq_ok_iff`), and every field of the header can be read off the file. What becomes of
any other file, and of any other header, is said in `Header.parse_exact`.
-/

namespace StructVault.Snapshot.Header

/-- The number in some bytes of a record, written again, gives those bytes. -/
theorem encode_numberAt {record : Bytes} {position width : Nat}
    (h : position + width ≤ record.length) :
    LittleEndian.encode width (numberAt record position width)
      = (record.drop position).take width := by
  have hlen : ((record.drop position).take width).length = width := by
    rw [List.length_take, List.length_drop]
    omega
  have hback := LittleEndian.encode_decode ((record.drop position).take width)
  rw [hlen] at hback
  exact hback

theorem numberAt_lt (record : Bytes) (position width : Nat) :
    numberAt record position width < 256 ^ width := by
  refine Nat.lt_of_lt_of_le (LittleEndian.decode_lt _) ?_
  exact Nat.pow_le_pow_right (by decide) (List.length_take_le ..)

theorem toNat_numberAt_two (record : Bytes) (position : Nat) :
    (UInt16.ofNat (numberAt record position 2)).toNat = numberAt record position 2 :=
  UInt16.toNat_ofNat_of_lt' (numberAt_lt record position 2)

theorem toNat_numberAt_four (record : Bytes) (position : Nat) :
    (UInt32.ofNat (numberAt record position 4)).toNat = numberAt record position 4 :=
  UInt32.toNat_ofNat_of_lt' (numberAt_lt record position 4)

/-- A number that ends in the first bytes of a file is found in them alone. -/
theorem numberAt_take (data : Bytes) {position width length : Nat}
    (h : position + width ≤ length) :
    numberAt (data.take length) position width = numberAt data position width := by
  unfold numberAt
  rw [List.drop_take, List.take_take, Nat.min_eq_left (by omega)]

/-- Sixteen bytes that start with the mark are the bytes of their fields. -/
theorem toBytes_ofRecord {record : Bytes} (hlen : record.length = size)
    (hmagic : record.take 4 = magic) : (ofRecord record).toBytes = record := by
  have hsize : record.length = 16 := hlen
  show magic
      ++ LittleEndian.encode 2 (UInt16.ofNat (numberAt record 4 2)).toNat
      ++ LittleEndian.encode 2 (UInt16.ofNat (numberAt record 6 2)).toNat
      ++ LittleEndian.encode 4 (UInt32.ofNat (numberAt record 8 4)).toNat
      ++ LittleEndian.encode 4 (UInt32.ofNat (numberAt record 12 4)).toNat = record
  rw [toNat_numberAt_two, toNat_numberAt_two, toNat_numberAt_four, toNat_numberAt_four,
    encode_numberAt (by omega), encode_numberAt (by omega), encode_numberAt (by omega),
    encode_numberAt (by omega), ← hmagic]
  -- the five pieces are consecutive, so they join from the front
  calc _ = record.take 6 ++ (record.drop 6).take 2 ++ (record.drop 8).take 4
        ++ (record.drop 12).take 4 := by rw [← List.take_add]
    _ = record.take 8 ++ (record.drop 8).take 4 ++ (record.drop 12).take 4 := by
      rw [← List.take_add]
    _ = record.take 12 ++ (record.drop 12).take 4 := by rw [← List.take_add]
    _ = record := by rw [← List.take_add, List.take_of_length_le (by omega)]

/-- The fields of a header are where `ofRecord` looks for them. -/
theorem ofRecord_toBytes (header : Header) : ofRecord header.toBytes = header := by
  have hversion : numberAt header.toBytes 4 2 = header.version.toNat := by
    show LittleEndian.decode (LittleEndian.encode 2 header.version.toNat) = _
    rw [LittleEndian.decode_encode]
    exact Nat.mod_eq_of_lt header.version.toNat_lt
  have hflags : numberAt header.toBytes 6 2 = header.flags.toNat := by
    show LittleEndian.decode (LittleEndian.encode 2 header.flags.toNat) = _
    rw [LittleEndian.decode_encode]
    exact Nat.mod_eq_of_lt header.flags.toNat_lt
  have hcount : numberAt header.toBytes 8 4 = header.structureCount.toNat := by
    show LittleEndian.decode (LittleEndian.encode 4 header.structureCount.toNat) = _
    rw [LittleEndian.decode_encode]
    exact Nat.mod_eq_of_lt header.structureCount.toNat_lt
  have hcrc : numberAt header.toBytes 12 4 = header.bodyChecksum.toNat := by
    show LittleEndian.decode (LittleEndian.encode 4 header.bodyChecksum.toNat) = _
    rw [LittleEndian.decode_encode]
    exact Nat.mod_eq_of_lt header.bodyChecksum.toNat_lt
  obtain ⟨version, flags, structureCount, bodyChecksum⟩ := header
  simp only [ofRecord, hversion, hflags, hcount, hcrc, UInt16.ofNat_toNat, UInt32.ofNat_toNat]

/-! ## Acceptance -/

/-- The header is of a version and with flags that are read. -/
def Readable (header : Header) : Prop := header.version = currentVersion ∧ header.flags = 0

theorem eq_currentVersion_iff (version : UInt16) :
    version = currentVersion ↔ version ≠ 0 ∧ ¬ currentVersion < version := by
  have hcurrent : currentVersion.toNat = 1 := rfl
  rw [← UInt16.toNat_inj, ne_eq, ← UInt16.toNat_inj, UInt16.lt_iff_toNat_lt, hcurrent]
  show version.toNat = 1 ↔ ¬ version.toNat = 0 ∧ _
  omega

/-- Behind a complete record with the mark, only the version and the flags are looked at. -/
theorem parse_append {record : Bytes} (body : Bytes) (hlen : record.length = size)
    (hmagic : record.take 4 = magic) : parse (record ++ body) =
      if (ofRecord record).version = 0 then .error .versionZero
      else if currentVersion < (ofRecord record).version then
        .error (.unsupportedVersion (ofRecord record).version)
      else if (ofRecord record).flags ≠ 0 then .error (.unknownFlags (ofRecord record).flags)
      else .ok (ofRecord record) := by
  have htake : (record ++ body).take size = record := by
    rw [← hlen, List.take_left]
  have hmark : ¬ record.take magic.length ≠ magic.take record.length := by
    rw [hlen]
    exact fun hne => hne hmagic
  unfold parse
  simp only [htake]
  rw [if_neg hmark, if_neg (by omega)]

/-- Nothing behind the header is looked at. -/
theorem parse_append_of_le {data : Bytes} (hlong : size ≤ data.length) (more : Bytes) :
    parse (data ++ more) = parse data := by
  unfold parse
  rw [List.take_append_of_le_length hlong]

/-- The comparison of a file with as much of the mark as the file could hold, in one word. -/
theorem mark_eq_iff (data : Bytes) :
    (data.take size).take magic.length = magic.take (data.take size).length
      ↔ data.take magic.length <+: magic := by
  have hpart : (data.take size).take magic.length = data.take magic.length := by
    rw [List.take_take]
    rfl
  have hlen : magic.take (data.take size).length = magic.take (data.take magic.length).length := by
    rw [List.take_eq_take_iff, List.length_take, List.length_take]
    show min (min 16 _) 4 = min (min 4 _) 4
    omega
  rw [hpart, hlen, List.prefix_iff_eq_take]

/-- **Refused headers**: a file is foreign, or else too short, or else complete but of a version or
with flags that are not read. -/
theorem error_of_parse {data : Bytes} {error : Error} (h : parse data = .error error) :
    error = .badMagic ∧ ¬ data.take magic.length <+: magic
    ∨ error = .truncated .header 0 ∧ data.take magic.length <+: magic ∧ data.length < size
    ∨ size ≤ data.length ∧ (error = .versionZero ∧ numberAt data 4 2 = 0
      ∨ (∃ found, error = .unsupportedVersion found ∧ found.toNat = numberAt data 4 2
        ∧ currentVersion < found)
      ∨ ∃ flags, error = .unknownFlags flags ∧ flags.toNat = numberAt data 6 2 ∧ flags ≠ 0) := by
  have hnumber : ∀ position, position + 2 ≤ size →
      (UInt16.ofNat (numberAt (data.take size) position 2)).toNat = numberAt data position 2 := by
    intro position hin
    rw [toNat_numberAt_two, numberAt_take data hin]
  unfold parse at h
  simp only [ne_eq, mark_eq_iff] at h
  split at h
  · next hforeign =>
    cases h
    exact Or.inl ⟨rfl, hforeign⟩
  · next hmark =>
    split at h
    · next hshort =>
      cases h
      rw [List.length_take] at hshort
      exact Or.inr (Or.inl ⟨rfl, Decidable.not_not.mp hmark, by omega⟩)
    · next hlong =>
      rw [List.length_take] at hlong
      refine Or.inr (Or.inr ⟨by omega, ?_⟩)
      split at h
      · next hzero =>
        cases h
        refine Or.inl ⟨rfl, ?_⟩
        rw [← hnumber 4 (by decide)]
        exact congrArg UInt16.toNat hzero
      · split at h
        · next hnew =>
          cases h
          exact Or.inr (Or.inl ⟨_, rfl, hnumber 4 (by decide), hnew⟩)
        · split at h
          · next hflags =>
            cases h
            exact Or.inr (Or.inr ⟨_, rfl, hnumber 6 (by decide), hflags⟩)
          · cases h

/-- A foreign file is told by its first bytes, however short it is. -/
theorem parse_eq_badMagic_iff (data : Bytes) :
    parse data = .error .badMagic ↔ ¬ data.take magic.length <+: magic := by
  constructor
  · intro h
    rcases error_of_parse h with ⟨-, hforeign⟩ | ⟨h, -⟩ | ⟨-, ⟨h, -⟩ | ⟨_, h, -⟩ | ⟨_, h, -⟩⟩
    · exact hforeign
    all_goals cases h
  · intro hforeign
    unfold parse
    simp only [ne_eq, mark_eq_iff]
    rw [if_pos hforeign]

/-- A file is called too short if it is that and nothing else in it speaks against a snapshot. -/
theorem parse_eq_truncated_iff (data : Bytes) : parse data = .error (.truncated .header 0) ↔
    data.take magic.length <+: magic ∧ data.length < size := by
  constructor
  · intro h
    rcases error_of_parse h with ⟨h, -⟩ | ⟨-, hshort⟩ | ⟨-, ⟨h, -⟩ | ⟨_, h, -⟩ | ⟨_, h, -⟩⟩
    · cases h
    · exact hshort
    all_goals cases h
  · rintro ⟨hmark, hshort⟩
    have hrecord : (data.take size).length < size := by
      rw [List.length_take]
      omega
    unfold parse
    simp only [ne_eq, mark_eq_iff]
    rw [if_neg (not_not_intro hmark), if_pos hrecord]

/-- An accepted file is at least a header long and starts with the mark. -/
theorem record_of_parse {data : Bytes} {header : Header} (h : parse data = .ok header) :
    (data.take size).length = size ∧ (data.take size).take 4 = magic := by
  unfold parse at h
  dsimp only at h
  split at h
  · cases h
  · next hmark =>
    split at h
    · cases h
    · next hlong =>
      have hlen : (data.take size).length = size :=
        Nat.le_antisymm (List.length_take_le ..) (Nat.le_of_not_lt hlong)
      refine ⟨hlen, ?_⟩
      rw [hlen] at hmark
      exact Decidable.not_not.mp hmark

/-- **Accepted headers**: the files with an accepted header are the bytes of a readable header
with anything behind them. -/
theorem parse_eq_ok_iff {data : Bytes} {header : Header} :
    parse data = .ok header ↔ header.Readable ∧ ∃ body, data = header.toBytes ++ body := by
  constructor
  · intro h
    obtain ⟨hlen, hmagic⟩ := record_of_parse h
    rw [← List.take_append_drop size data, parse_append _ hlen hmagic] at h
    split at h
    · cases h
    · next hzero =>
      split at h
      · cases h
      · next hnew =>
        split at h
        · cases h
        · next hflags =>
          cases h
          refine ⟨⟨(eq_currentVersion_iff _).mpr ⟨hzero, hnew⟩, Decidable.not_not.mp hflags⟩,
            data.drop size, ?_⟩
          rw [toBytes_ofRecord hlen hmagic, List.take_append_drop]
  · rintro ⟨⟨hversion, hflags⟩, body, rfl⟩
    obtain ⟨hzero, hnew⟩ := (eq_currentVersion_iff _).mp hversion
    rw [parse_append body (length_toBytes header) rfl, ofRecord_toBytes, if_neg hzero,
      if_neg hnew, if_neg (not_not_intro hflags)]

theorem take_size_append (header : Header) (body : Bytes) :
    (header.toBytes ++ body).take size = header.toBytes := by
  rw [← length_toBytes header, List.take_left]

/-- The numbers of an accepted header stand at the start of the file. -/
theorem numbers_of_parse {data : Bytes} {header : Header} (h : parse data = .ok header) :
    size ≤ data.length ∧ header.structureCount.toNat = numberAt data 8 4
      ∧ header.bodyChecksum.toNat = numberAt data 12 4 := by
  obtain ⟨-, body, rfl⟩ := parse_eq_ok_iff.mp h
  have hnumber : ∀ position, position + 4 ≤ size →
      numberAt (header.toBytes ++ body) position 4 = numberAt header.toBytes position 4 := by
    intro position hin
    rw [← numberAt_take _ hin, take_size_append]
  refine ⟨?_, ?_, ?_⟩
  · rw [List.length_append, length_toBytes]
    exact Nat.le_add_right _ _
  · calc header.structureCount.toNat = (ofRecord header.toBytes).structureCount.toNat := by
          rw [ofRecord_toBytes]
      _ = numberAt header.toBytes 8 4 := toNat_numberAt_four _ 8
      _ = _ := (hnumber 8 (by decide)).symm
  · calc header.bodyChecksum.toNat = (ofRecord header.toBytes).bodyChecksum.toNat := by
          rw [ofRecord_toBytes]
      _ = numberAt header.toBytes 12 4 := toNat_numberAt_four _ 12
      _ = _ := (hnumber 12 (by decide)).symm

/-! ## Every file and every header -/

/-- What is said about the version and the flags of a record, said about its bytes. -/
theorem readable_ofRecord_iff (record : Bytes) :
    (ofRecord record).Readable ↔ numberAt record 4 2 = 1 ∧ numberAt record 6 2 = 0 := by
  have hversion : (ofRecord record).version = currentVersion ↔ numberAt record 4 2 = 1 := by
    rw [← UInt16.toNat_inj]
    show (UInt16.ofNat (numberAt record 4 2)).toNat = 1 ↔ _
    rw [toNat_numberAt_two]
  have hflags : (ofRecord record).flags = 0 ↔ numberAt record 6 2 = 0 := by
    rw [← UInt16.toNat_inj]
    show (UInt16.ofNat (numberAt record 6 2)).toNat = 0 ↔ _
    rw [toNat_numberAt_two]
  exact and_congr hversion hflags

/-- Which files have an accepted header, told by their bytes alone. -/
theorem exists_parse_eq_ok_iff (data : Bytes) : (∃ header, parse data = .ok header) ↔
    size ≤ data.length ∧ magic <+: data ∧ numberAt data 4 2 = 1 ∧ numberAt data 6 2 = 0 := by
  have hreadable : (ofRecord (data.take size)).Readable ↔
      numberAt data 4 2 = 1 ∧ numberAt data 6 2 = 0 := by
    rw [readable_ofRecord_iff, numberAt_take data (by decide), numberAt_take data (by decide)]
  rw [← hreadable]
  constructor
  · rintro ⟨header, h⟩
    obtain ⟨hlong, -, -⟩ := numbers_of_parse h
    obtain ⟨hheader, body, rfl⟩ := parse_eq_ok_iff.mp h
    refine ⟨hlong, ⟨header.toBytes.drop 4 ++ body, rfl⟩, ?_⟩
    rw [take_size_append, ofRecord_toBytes]
    exact hheader
  · rintro ⟨hlong, hmagic, hheader⟩
    have hmark : (data.take size).take 4 = magic := by
      rw [List.take_take]
      exact (List.prefix_iff_eq_take.mp hmagic).symm
    refine ⟨_, parse_eq_ok_iff.mpr ⟨hheader, data.drop size, ?_⟩⟩
    rw [toBytes_ofRecord (List.length_take_of_le hlong) hmark, List.take_append_drop]

/-- What a header in front of anything is told to be is told by its version, and then its flags. -/
theorem parse_toBytes_append (header : Header) (behind : Bytes) : parse (header.toBytes ++ behind) =
    if header.version = 0 then .error .versionZero
    else if currentVersion < header.version then .error (.unsupportedVersion header.version)
    else if header.flags ≠ 0 then .error (.unknownFlags header.flags)
    else .ok header := by
  rw [parse_append behind (length_toBytes header) rfl, ofRecord_toBytes]

/-- **Headers are accepted exactly**: where a file has at least sixteen bytes, starts with the mark
and states the one version there is and no flags. The header read is then what these sixteen bytes
are written for. A file that is refused is foreign rather than short, and what a complete header
gets wrong is reported in the order of its fields: a version that never was, a version that is too
new, and flags only where the version is known. -/
theorem parse_exact (data behind : Bytes) (header : Header) :
    ((∃ accepted, parse data = .ok accepted) ↔
      16 ≤ data.length ∧ magic <+: data ∧ numberAt data 4 2 = 1 ∧ numberAt data 6 2 = 0)
    ∧ (parse data = .ok header → header.toBytes = data.take 16)
    ∧ (parse data = .error .badMagic ↔ ¬ data.take 4 <+: magic)
    ∧ (parse data = .error (.truncated .header 0) ↔ data.take 4 <+: magic ∧ data.length < 16)
    ∧ (parse (header.toBytes ++ behind) = .ok header ↔ header.version = 1 ∧ header.flags = 0)
    ∧ (header.version = 0 → parse (header.toBytes ++ behind) = .error .versionZero)
    ∧ (1 < header.version →
      parse (header.toBytes ++ behind) = .error (.unsupportedVersion header.version))
    ∧ (header.version = 1 → header.flags ≠ 0 →
      parse (header.toBytes ++ behind) = .error (.unknownFlags header.flags)) := by
  refine ⟨exists_parse_eq_ok_iff data, ?_, parse_eq_badMagic_iff data,
    parse_eq_truncated_iff data, ?_, ?_, ?_, ?_⟩
  · intro h
    obtain ⟨-, body, rfl⟩ := parse_eq_ok_iff.mp h
    exact (take_size_append header body).symm
  · rw [parse_eq_ok_iff]
    exact ⟨fun ⟨hreadable, _⟩ => hreadable, fun hreadable => ⟨hreadable, behind, rfl⟩⟩
  · intro hzero
    rw [parse_toBytes_append, if_pos hzero]
  · intro hnew
    have hzero : header.version ≠ 0 := by
      intro hzero
      rw [hzero] at hnew
      exact absurd hnew (by decide)
    rw [parse_toBytes_append, if_neg hzero]
    exact if_pos hnew
  · intro hversion hflags
    obtain ⟨hzero, hold⟩ := (eq_currentVersion_iff header.version).mp hversion
    rw [parse_toBytes_append, if_neg hzero, if_neg hold, if_pos hflags]

/-- A header of a version to come, with flags nobody knows. -/
def headerToCome : Header where
  version := 2
  flags := 7
  structureCount := 1
  bodyChecksum := 0xFFFFFFFF

/-- Of the two things that are wrong with the header the version is reported, and the flags only
with the version of today. Without its last byte it is too short, whatever its version. -/
theorem parse_exact_headerToCome :
    (¬ ∃ accepted, parse headerToCome.toBytes = .ok accepted)
      ∧ parse (headerToCome.toBytes ++ [0x53]) = .error (.unsupportedVersion 2)
      ∧ parse ({ headerToCome with version := 1 }.toBytes ++ [0x53]) = .error (.unknownFlags 7)
      ∧ parse ({ headerToCome with version := 0 }.toBytes ++ [0x53]) = .error .versionZero
      ∧ parse ({ headerToCome with version := 1, flags := 0 }.toBytes ++ [0x53])
        = .ok { headerToCome with version := 1, flags := 0 }
      ∧ parse (headerToCome.toBytes.take 15) = .error (.truncated .header 0)
      ∧ parse [0x53, 0x51] = .error .badMagic := by
  obtain ⟨haccepted, -, -, -, -, -, hnew, -⟩ :=
    parse_exact headerToCome.toBytes [0x53] headerToCome
  obtain ⟨-, -, -, -, -, -, -, hflags⟩ :=
    parse_exact [] [0x53] { headerToCome with version := 1 }
  obtain ⟨-, -, -, -, -, hzero, -, -⟩ :=
    parse_exact [] [0x53] { headerToCome with version := 0 }
  obtain ⟨-, -, -, -, hread, -⟩ :=
    parse_exact [] [0x53] { headerToCome with version := 1, flags := 0 }
  obtain ⟨-, -, -, hshort, -⟩ := parse_exact (headerToCome.toBytes.take 15) [] headerToCome
  obtain ⟨-, -, hforeign, -⟩ := parse_exact [0x53, 0x51] [] headerToCome
  refine ⟨fun h => ?_, hnew (by decide), hflags rfl (by decide), hzero rfl, hread.mpr ⟨rfl, rfl⟩,
    hshort.mpr (by decide), hforeign.mpr (by decide)⟩
  obtain ⟨-, -, hversion, -⟩ := haccepted.mp h
  exact absurd hversion (by decide)

/-- A header is its bytes. -/
theorem toBytes_injective {header header' : Header} (h : header.toBytes = header'.toBytes) :
    header = header' := by
  rw [← ofRecord_toBytes header, h, ofRecord_toBytes]

end StructVault.Snapshot.Header
