import StructVault.Proofs.Files.Replacing
import StructVault.Proofs.Program.Load
import StructVault.Proofs.Program.Produce
import StructVault.Proofs.Transfer.RoundTrip

/-!
# From one database file to another

A database file is produced as a snapshot, the snapshot is loaded into another database file, and
that is produced again. Offsets, gaps and the layout of the first file are lost on the way, but only
once: what `Handed` says of the two files between the commands holds behind the first load, and
every further load keeps it (`handed_of_loads`), so that every production writes the first snapshot
again (`read_of_produce`).

The files have to be told apart, by the places their paths lead to: no command may replace a file
that a later one is to read, neither as its own file nor by way of the hidden sibling (`Spares`).
-/

namespace StructVault

open FileTree

variable {files left : FileTree} {snapshot target copy : Path} {bytes : Bytes}
  {structures : List Structure} {verifyChecksum sync : Bool}

/-! ## Between the commands -/

/-- The snapshot file holds the encoding of the structures, which are a valid database when they
are laid out. -/
structure Offered (files : FileTree) (snapshot : Path) (bytes : Bytes)
    (structures : List Structure) : Prop where
  read_snapshot : files.read snapshot = .ok bytes
  named : snapshot.fileName? ≠ none
  encoded : Snapshot.encode structures = .ok bytes
  valid : Valid (structures.map StoredStructure.layOut)

/-- The structures are in the snapshot file, and in the database file as a load lays them out. -/
structure Handed (files : FileTree) (snapshot target : Path) (bytes : Bytes)
    (structures : List Structure) : Prop extends Offered files snapshot bytes structures where
  read_target : files.read target = .ok (Text.encode
    (Database.jsonText { structures := structures.map StoredStructure.layOut }))

/-- A snapshot goes on being offered while other files are replaced. -/
theorem Offered.of_replaceFile (h : Offered files snapshot bytes structures) {content : Bytes}
    (hspares : files.Spares target snapshot)
    (hreplace : files.replaceFile target content sync = (.ok (), left)) :
    Offered left snapshot bytes structures :=
  have hentry := ((outcome_of_replaceFile hreplace).sameAt_of_spares hspares h.named).entry
  { h with read_snapshot := (read_congr hentry).mpr h.read_snapshot }

theorem Handed.load_target (h : Handed files snapshot target bytes structures) :
    Database.load files target = .ok { structures := structures.map StoredStructure.layOut } :=
  Database.load_eq_ok.mpr ⟨_, h.read_target, Database.ofJsonText_jsonText _, h.valid⟩

namespace Program

variable {producing loading again : List String} {environment : Option String} {time : String}

/-- **A production** that succeeds offers the contents of the database. -/
theorem offered_of_produce {database : Path} (hasks : Asks producing (.produce database snapshot sync))
    {produced : Ending} (hrun : run producing environment time files = .ok produced)
    (hcode : produced.exitCode = 0) : ∃ source bytes, Database.load files database = .ok source
      ∧ Offered produced.files snapshot bytes source.contents
      ∧ files.replaceFile snapshot bytes sync = (.ok (), produced.files) := by
  obtain ⟨_, hrun', -, hreplaced⟩ := run_produce hasks environment time files
  cases hrun.symm.trans hrun'
  obtain ⟨bytes, ⟨source, hsource, hencode⟩, hreplace⟩ := hreplaced hcode
  obtain ⟨-, -, -, hvalid⟩ := Database.load_eq_ok.mp hsource
  have hwritable := exists_replaceFile_eq_ok_iff.mp ⟨_, hreplace⟩
  refine ⟨source, bytes, hsource, ?_, hreplace⟩
  exact {
    read_snapshot := read_of_replaceFile hreplace
    named := Option.ne_none_iff_exists'.mpr hwritable.exists_fileName
    encoded := hencode
    valid := valid_layOut_contents hvalid }

/-- **A load** of an offered snapshot succeeds and leaves the structures in both files. -/
theorem handed_of_load (hasks : Asks loading (.load snapshot target verifyChecksum))
    (hoffered : Offered files snapshot bytes structures) (hopens : Task.Opens files target)
    (hwritable : files.Replaceable target) (hspares : files.Spares target snapshot) :
    ∃ left, Succeeds loading files left
      ∧ Handed left snapshot target bytes structures ∧ SameDirectories files left := by
  have hdecode := Snapshot.decode_of_encode hoffered.encoded verifyChecksum
  have hloadable : Task.Loadable files snapshot target verifyChecksum :=
    { opens := Task.opens_iff.mp hopens
      taken := ⟨bytes, structures, hoffered.read_snapshot, hdecode, hoffered.valid⟩
      replaceable := hwritable }
  obtain ⟨result, left, hending, hends⟩ := Task.ends_load files snapshot target verifyChecksum
  have hok := hending.isOk_iff.mpr hloadable
  cases result with
  | error failure => cases hok
  | ok printed =>
    -- what was saved is what the snapshot offers, for it is decoded to one list only
    obtain ⟨data, structures', content, hdata, hdecode', htaken, hsave⟩ := hending.saved_of_ok
    cases hoffered.read_snapshot.symm.trans hdata
    cases hdecode.symm.trans hdecode'
    obtain ⟨-, rfl⟩ := Database.ofStructures_eq_ok.mp htaken
    have hreplace := Database.save_eq_ok.mp hsave
    refine ⟨left, succeeds_of_ends hasks hends, ?_,
      (outcome_of_replaceFile hreplace).sameDirectories⟩
    exact { hoffered.of_replaceFile hspares hreplace with
      read_target := read_of_replaceFile hreplace }

/-- **A production** from the loaded database writes the snapshot that was loaded, wherever it can
write, and leaves that one alone. -/
theorem read_of_produce (hhanded : Handed files snapshot target bytes structures)
    (hasks : Asks again (.produce target copy sync)) (hspares : files.Spares copy snapshot)
    (environment : Option String) (time : String) :
    ∃ ending, run again environment time files = .ok ending
      ∧ (ending.exitCode = 0 ↔ files.Replaceable copy)
      ∧ (ending.exitCode = 0 → ending.files.read copy = .ok bytes
        ∧ ending.files.read snapshot = .ok bytes) := by
  obtain ⟨ending, hrun, hdecided, hproduced⟩ := run_produce hasks environment time files
  have hexportable : Task.Exportable files target bytes :=
    ⟨_, hhanded.load_target, by rw [Database.contents_layOut, hhanded.encoded]⟩
  refine ⟨ending, hrun, ?_, fun hcode => ?_⟩
  · rw [hdecided]
    exact and_iff_right ⟨bytes, hexportable⟩
  · obtain ⟨bytes', ⟨source, hsource, hencode⟩, hreplace⟩ := hproduced hcode
    -- the loaded structures are captured as they were taken, and they have one encoding
    cases hhanded.load_target.symm.trans hsource
    rw [Database.contents_layOut, hhanded.encoded] at hencode
    cases hencode
    exact ⟨read_of_replaceFile hreplace,
      (hhanded.toOffered.of_replaceFile hspares hreplace).read_snapshot⟩

/-! ## Loads over and over -/

/-- From `files` the words can be run `count` times one after the other, each run exits with 0, and
the last one leaves `left`. -/
def SucceedsTimes (words : List String) : Nat → FileTree → FileTree → Prop
  | 0, files, left => left = files
  | count + 1, files, left =>
    ∃ between, Succeeds words files between ∧ SucceedsTimes words count between left

/-- Further loads of the same snapshot change nothing any more. -/
theorem handed_of_loads (hasks : Asks loading (.load snapshot target verifyChecksum)) :
    ∀ (count : Nat) {files : FileTree}, Handed files snapshot target bytes structures →
      files.Replaceable target → files.Spares target snapshot →
      ∃ left, SucceedsTimes loading count files left
        ∧ Handed left snapshot target bytes structures ∧ SameDirectories files left
  | 0, files, hhanded, _, _ => ⟨files, rfl, hhanded, rfl, fun _ => rfl⟩
  | count + 1, files, hhanded, hwritable, hspares => by
    -- the old database is now the one that the load before has written
    have hopens : Task.Opens files target := Or.inr ⟨_, hhanded.load_target⟩
    obtain ⟨between, hsucceeds, hbetween, hsame⟩ :=
      handed_of_load hasks hhanded.toOffered hopens hwritable hspares
    obtain ⟨left, htimes, hleft, hsame'⟩ := handed_of_loads hasks count hbetween
      (hwritable.of_sameDirectories hsame) (hspares.of_sameDirectories hsame)
    exact ⟨left, ⟨between, hsucceeds, htimes⟩, hleft, hsame.trans hsame'⟩

/-! ## There and back -/

/-- **Round trip and idempotence.** Once a snapshot was produced from a database file, it can be
loaded into every file that may be replaced and is missing or holds a valid database. The database
there then gives the same captures as the first one. To load it once more, or any number of times,
leaves the same bytes in the database file, and a snapshot that is produced from that file has the
bytes of the first one. -/
theorem round_trip_of_produce {database : Path} {sync' : Bool}
    (hproduce : Asks producing (.produce database snapshot sync))
    (hload : Asks loading (.load snapshot target verifyChecksum))
    (hagain : Asks again (.produce target copy sync')) {produced : Ending}
    (hrun : run producing environment time files = .ok produced) (hcode : produced.exitCode = 0)
    (hopens : Task.Opens files target) (hwritable : files.Replaceable target)
    (hsnapshot : files.Spares snapshot target) (htarget : files.Spares target snapshot)
    (hcopy : files.Spares copy snapshot) :
    ∃ source content structures bytes loaded, Database.load files database = .ok source
      ∧ produced.files.read snapshot = .ok bytes
      ∧ Succeeds loading produced.files loaded
      ∧ Database.load loaded target = .ok content
      ∧ Access.capture { database := source } = .ok structures { database := source }
      ∧ Access.capture { database := content } = .ok structures { database := content }
      ∧ ∀ count, ∃ later, SucceedsTimes loading count loaded later
        ∧ (∃ text, loaded.read target = .ok text ∧ later.read target = .ok text)
        ∧ ∀ environment time, ∃ ending, run again environment time later = .ok ending
          ∧ (ending.exitCode = 0 ↔ files.Replaceable copy)
          ∧ (ending.exitCode = 0 → ending.files.read copy = .ok bytes
            ∧ ending.files.read snapshot = .ok bytes) := by
  obtain ⟨source, bytes, hsource, hoffered, hreplace⟩ := offered_of_produce hproduce hrun hcode
  have hproduced := outcome_of_replaceFile hreplace
  have hsame := hproduced.sameDirectories
  -- the file of the second database is found as it was before the production
  have hname := Option.ne_none_iff_exists'.mpr hwritable.exists_fileName
  have hopens' := hopens.congr (hproduced.sameAt_of_spares hsnapshot hname).entry
  obtain ⟨loaded, hsucceeds, hhanded, hsame'⟩ := handed_of_load hload hoffered hopens'
    (hwritable.of_sameDirectories hsame) (htarget.of_sameDirectories hsame)
  have hbefore := hsame.trans hsame'
  -- offsets are lost in the second database, but they are not captured
  have hcapture := Access.capture_eq_contents
    { structures := source.contents.map StoredStructure.layOut }
  rw [Database.contents_layOut] at hcapture
  refine ⟨source, _, source.contents, bytes, loaded, hsource, hoffered.read_snapshot, hsucceeds,
    hhanded.load_target, Access.capture_eq_contents source, hcapture, fun count => ?_⟩
  obtain ⟨later, htimes, hlater, hsame''⟩ := handed_of_loads hload count hhanded
    (hwritable.of_sameDirectories hbefore) (htarget.of_sameDirectories hbefore)
  have hall := hbefore.trans hsame''
  have hreplaceable : later.Replaceable copy ↔ files.Replaceable copy :=
    ⟨fun h => h.of_sameDirectories hall.symm, fun h => h.of_sameDirectories hall⟩
  refine ⟨later, htimes, ⟨_, hhanded.read_target, hlater.read_target⟩, fun environment time => ?_⟩
  obtain ⟨ending, hrunAgain, hdecided, hwritten⟩ := read_of_produce hlater hagain
    (hcopy.of_sameDirectories hall) environment time
  exact ⟨ending, hrunAgain, hdecided.trans hreplaceable, hwritten⟩

/-- A scattered database beside another one, whose only structure is called `old`. -/
def vaultTree : FileTree where
  entries := [
    (["d.json"], .file (Text.encode scatteredDatabase.jsonText)),
    (["t.json"], .file (Text.encode (Database.jsonText { structures := [{
      name := "old", size := 1 }] })))]

theorem round_trip_vaultTree : ∃ bytes produced loaded content later ending,
    run ["produce", "--database", "d.json", "-o", "s.spst"] none "2001-02-03" vaultTree
        = .ok produced
      ∧ produced.files.read ⟨"s.spst"⟩ = .ok bytes
      ∧ Succeeds ["load", "s.spst", "--database", "t.json"] produced.files loaded
      ∧ Database.load loaded ⟨"t.json"⟩ = .ok content
      ∧ Access.capture { database := content } = .ok scatteredList { database := content }
      ∧ Succeeds ["load", "s.spst", "--database", "t.json"] loaded later
      ∧ (∃ text, loaded.read ⟨"t.json"⟩ = .ok text ∧ later.read ⟨"t.json"⟩ = .ok text)
      ∧ run ["produce", "--database", "t.json", "-o", "copy.spst"] none "2001-02-03" later
        = .ok ending
      ∧ ending.files.read ⟨"copy.spst"⟩ = .ok bytes := by
  have hproduce : Asks ["produce", "--database", "d.json", "-o", "s.spst"]
      (.produce ⟨"d.json"⟩ ⟨"s.spst"⟩ true) := ⟨{}, rfl, rfl⟩
  have hload : Asks ["load", "s.spst", "--database", "t.json"]
      (.load ⟨"s.spst"⟩ ⟨"t.json"⟩ true) := ⟨{}, rfl, rfl⟩
  have hagain : Asks ["produce", "--database", "t.json", "-o", "copy.spst"]
      (.produce ⟨"t.json"⟩ ⟨"copy.spst"⟩ true) := ⟨{}, rfl, rfl⟩
  have hsnapshot : vaultTree.Replaceable ⟨"s.spst"⟩ :=
    ⟨⟨[], "s.spst", rfl, by decide, rfl, rfl⟩, ⟨⟨".s.spst.tmp"⟩, rfl, rfl⟩⟩
  have htarget : vaultTree.Replaceable ⟨"t.json"⟩ :=
    ⟨⟨[], "t.json", rfl, by decide, rfl, rfl⟩, ⟨⟨".t.json.tmp"⟩, rfl, rfl⟩⟩
  have hcopy : vaultTree.Replaceable ⟨"copy.spst"⟩ :=
    ⟨⟨[], "copy.spst", rfl, by decide, rfl, rfl⟩, ⟨⟨".copy.spst.tmp"⟩, rfl, rfl⟩⟩
  have hopens : Task.Opens vaultTree ⟨"t.json"⟩ := Task.opens_iff.mpr (Or.inr ⟨_, _, rfl,
    Database.ofJsonText_jsonText _, firstBreach_eq_none_iff.mp (by decide)⟩)
  have hsource : Database.load vaultTree ⟨"d.json"⟩ = .ok scatteredDatabase :=
    Database.load_eq_ok.mpr ⟨_, rfl, Database.ofJsonText_jsonText _,
      firstBreach_eq_none_iff.mp (by decide)⟩
  obtain ⟨bytes, hencode⟩ : ∃ bytes, Snapshot.encode scatteredList = .ok bytes := ⟨_, rfl⟩
  obtain ⟨produced, hrun, hdecided, -⟩ := run_produce hproduce none "2001-02-03" vaultTree
  have hcode := hdecided.mpr
    ⟨⟨bytes, scatteredDatabase, hsource, by rw [contents_scatteredDatabase, hencode]⟩, hsnapshot⟩
  obtain ⟨source, content, structures, bytes', loaded, hsource', hbytes, hloaded, hcontent,
    hcapture, hcapture', hlater⟩ := round_trip_of_produce hproduce hload hagain hrun hcode hopens
      htarget (by decide) (by decide) (by decide)
  cases hsource.symm.trans hsource'
  rw [Access.capture_eq_contents, contents_scatteredDatabase] at hcapture
  cases hcapture
  obtain ⟨later, ⟨_, hagainLoaded, rfl⟩, htext, hending⟩ := hlater 1
  obtain ⟨ending, hrunAgain, hwritable, hwritten⟩ := hending none "2001-02-03"
  exact ⟨bytes', produced, loaded, content, _, ending, hrun, hbytes, hloaded, hcontent, hcapture',
    hagainLoaded, htext, hrunAgain, (hwritten (hwritable.mpr hcopy)).1⟩

end Program

end StructVault
