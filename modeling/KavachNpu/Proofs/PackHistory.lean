/-
Module: KavachNpu.Proofs.PackHistory
Layer: Proofs
Purpose: Whole histories of the packaging tool. A call changes at most the files its paths lead to, however it
  ends. So once keys are generated and a manifest is signed with them, and as long as no later call writes
  the manifest, its signature or the public key, the bundle verifies exactly if its manifest and its model
  are in order, for the tool and for the daemon: the signature is never what refuses it.
Trusted boundary: none
Main exports: PackTool.writes, PackTool.untouched_run, PackTool.untouched_history, PackTool.WritesAll,
  PackTool.Loadable, PackTool.verifyBundleDir_of_signed, PackTool.release_verifies
-/
import KavachNpu.Proofs.KeyFiles
import KavachNpu.Proofs.StubModel

namespace KavachNpu.PackTool

/-! ### What a command can write -/

section Writes

variable {SigningKey Key Value : Type} (tools : Tools SigningKey Key Value) (system : System)

/-- The paths that a call can write. -/
def writtenPaths (call : Invocation) : List String :=
  match call.args with
  | "keygen" :: args =>
      ["sign.key", "sign.key.hex", "pub.key", "pub.key.hex"].map
        (join system ((parseArg args "--output").getD "keys"))
  | "stub-onnx" :: args => [(parseArg args "--output").getD "models/active/kavach_multitask_int8.onnx"]
  | "sign" :: args =>
      (parseArg args "--manifest").toList.map fun manifestFile =>
        (parseArg args "--output").getD
          (join system ((system.parent manifestFile).getD ".") "manifest.sig")
  | "init-dev" :: args =>
      ["dev_root.key", "dev_root.pub", "dev_root.pub.hex"].map
          (join system ((parseArg args "--keys-dir").getD "keys")) ++
        ["kavach_multitask_int8.onnx", "manifest.json", "manifest.sig"].map
          (join system ((parseArg args "--bundle-dir").getD "models/active"))
  | _ => []

/-- The files that a call can write. -/
def writes (call : Invocation) : List Place :=
  (writtenPaths system call).map system.place

/-- Only the given files may have another content. -/
def Untouched (places : List Place) (before after : Files) : Prop :=
  ∀ place, place ∉ places → after place = before place

variable {system}

theorem Untouched.refl {places : List Place} (files : Files) : Untouched places files files :=
  fun _ _ => rfl

theorem Untouched.trans {places : List Place} {a b c : Files} (first : Untouched places a b)
    (second : Untouched places b c) : Untouched places a c :=
  fun place outside => (second place outside).trans (first place outside)

theorem Files.put_of_ne {files : Files} {place other : Place} (ne : other ≠ place)
    (content : Except String (List UInt8)) : files.put place content other = files other :=
  if_neg ne

theorem Files.put_self (files : Files) (place : Place) (content : Except String (List UInt8)) :
    files.put place content place = content :=
  if_pos rfl

theorem keeps_reading {α : Type} {places : List Place} (ask : Files → Outcome String α) :
    Stateful.Keeps (Untouched places) (Stateful.reading ask) :=
  Stateful.Keeps.reading Untouched.refl ask

theorem keeps_writeFile {call : Invocation} {answers : Answers} {path : String}
    (member : path ∈ writtenPaths system call) (content : List UInt8) (context : String → String) :
    Stateful.Keeps (Untouched (writes system call)) (writeFile system answers path content context) := by
  intro files other outside
  have ne : other ≠ system.place path := by
    intro same
    exact outside (same ▸ List.mem_map_of_mem member)
  unfold writeFile
  split
  · exact Files.put_of_ne ne _
  · exact Files.put_of_ne ne _

theorem keeps_bind {α β : Type} {places : List Place} {first : Command α} {next : α → Command β}
    (keeps : Stateful.Keeps (Untouched places) first)
    (continues : ∀ value, Stateful.Keeps (Untouched places) (next value)) :
    Stateful.Keeps (Untouched places) (first >>= next) :=
  Stateful.Keeps.bind (fun before after => before.trans after) keeps continues

variable (args : List String) (seed : Bytes 32) (answers : Answers)

theorem untouched_keygen :
    Stateful.Keeps (Untouched (writes system ⟨"keygen" :: args, seed, answers⟩))
      (cmdKeygen tools system answers args seed) := by
  refine keeps_bind (keeps_reading _) fun _ => ?_
  refine keeps_bind (keeps_writeFile (by simp [writtenPaths]) _ _) fun _ => ?_
  refine keeps_bind (keeps_writeFile (by simp [writtenPaths]) _ _) fun _ => ?_
  refine keeps_bind (keeps_writeFile (by simp [writtenPaths]) _ _) fun _ => ?_
  exact keeps_writeFile (by simp [writtenPaths]) _ _

theorem untouched_stubOnnx :
    Stateful.Keeps (Untouched (writes system ⟨"stub-onnx" :: args, seed, answers⟩))
      (cmdStubOnnx system answers args) := by
  refine keeps_bind ?_ fun _ => keeps_writeFile (by simp [writtenPaths]) _ _
  unfold createParentDir
  split
  · exact keeps_reading _
  · exact Stateful.Keeps.pure Untouched.refl ()

theorem untouched_sign :
    Stateful.Keeps (Untouched (writes system ⟨"sign" :: args, seed, answers⟩))
      (cmdSign tools system answers args) := by
  refine Stateful.Keeps.reading_bind Untouched.refl fun files => ?_
  rintro ⟨output, text⟩ signed
  obtain ⟨_, manifestFile, _, _, _, _, argument, _, _, _, same, _⟩ :=
    (SignedBundle.signManifest_eq_ok _).mp signed
  have listed : output ∈ writtenPaths system ⟨"sign" :: args, seed, answers⟩ := by
    rw [same]
    simp only [writtenPaths, argument, Option.toList_some, List.map_singleton, List.mem_singleton]
    rfl
  exact keeps_writeFile listed _ _

theorem untouched_verify (places : List Place) :
    Stateful.Keeps (Untouched places) (cmdVerify tools system args) := by
  refine keeps_bind (keeps_reading _) fun _ => ?_
  exact keeps_bind (keeps_reading _) fun _ => Stateful.Keeps.pure Untouched.refl ()

theorem untouched_initDev :
    Stateful.Keeps (Untouched (writes system ⟨"init-dev" :: args, seed, answers⟩))
      (cmdInitDev tools system answers args seed) := by
  refine keeps_bind ?_ fun _ => ?_
  · refine keeps_bind (keeps_reading _) fun _ => ?_
    refine keeps_bind (keeps_reading _) fun _ => ?_
    refine keeps_bind (keeps_writeFile (by simp [writtenPaths]) _ _) fun _ => ?_
    refine keeps_bind (keeps_writeFile (by simp [writtenPaths]) _ _) fun _ => ?_
    refine keeps_bind (keeps_writeFile (by simp [writtenPaths]) _ _) fun _ => ?_
    refine keeps_bind (keeps_writeFile (by simp [writtenPaths]) _ _) fun _ => ?_
    refine keeps_bind (keeps_writeFile (by simp [writtenPaths]) _ _) fun _ => ?_
    exact keeps_writeFile (by simp [writtenPaths]) _ _
  · exact keeps_bind (keeps_reading _) fun _ => Stateful.Keeps.pure Untouched.refl ()

omit args seed answers in
/-- A call changes at most the files it can write, however it ends. -/
theorem untouched_run (call : Invocation) :
    Stateful.Keeps (Untouched (writes system call)) (run tools system call) := by
  obtain ⟨args, seed, answers⟩ := call
  unfold run
  dsimp only
  split
  · exact Stateful.Keeps.pure Untouched.refl ()
  · exact untouched_keygen tools _ seed answers
  · exact untouched_stubOnnx _ seed answers
  · exact untouched_sign tools _ seed answers
  · exact untouched_verify tools _ _
  · exact untouched_initDev tools _ seed answers
  · exact Stateful.Keeps.pure Untouched.refl ()
  · exact Stateful.Keeps.pure Untouched.refl ()
  · exact Stateful.Keeps.pure Untouched.refl ()
  · exact keeps_reading _

variable (system) in
/-- The tool as a machine over the files. -/
def step (files : Files) (call : Invocation) : Outcome String Unit × Files :=
  run tools system call files

omit args seed answers in
/-- A file that no call of a history writes keeps its content. -/
theorem untouched_history {files : Files} {calls : List Invocation} {place : Place}
    (outside : ∀ call ∈ calls, place ∉ writes system call) :
    final (step tools system) files calls place = files place := by
  induction calls generalizing files with
  | nil => rfl
  | cons call calls ih =>
      rw [List.forall_mem_cons] at outside
      rw [final, ih outside.2]
      exact untouched_run tools call files place outside.1

end Writes

/-! ### What is written is read -/

/-- The files after a number of writes. -/
def Files.putAll (files : Files) (contents : List (Place × List UInt8)) : Files :=
  contents.foldl (fun files entry => files.put entry.1 (.ok entry.2)) files

theorem Files.putAll_of_not_mem {files : Files} {contents : List (Place × List UInt8)} {place : Place}
    (outside : place ∉ contents.map Prod.fst) : files.putAll contents place = files place := by
  induction contents generalizing files with
  | nil => rfl
  | cons entry contents ih =>
      rw [List.map_cons, List.mem_cons, not_or] at outside
      exact (ih outside.2).trans (Files.put_of_ne outside.1 _)

/-- Writes to different files all stay. -/
theorem Files.putAll_of_mem {files : Files} {contents : List (Place × List UInt8)}
    (distinct : (contents.map Prod.fst).Nodup) {place : Place} {content : List UInt8}
    (member : (place, content) ∈ contents) : files.putAll contents place = .ok content := by
  induction contents generalizing files with
  | nil => cases member
  | cons entry contents ih =>
      rw [List.map_cons, List.nodup_cons] at distinct
      rcases List.mem_cons.mp member with rfl | later
      · exact (Files.putAll_of_not_mem distinct.1).trans (Files.put_self _ _ _)
      · exact ih distinct.2 later

section Results

variable {SigningKey Key Value : Type} {tools : Tools SigningKey Key Value} {system : System}
  {answers : Answers}

variable (system) in
/-- The paths with their contents, as the files they lead to. -/
def placed (contents : List (String × List UInt8)) : List (Place × List UInt8) :=
  contents.map fun entry => (system.place entry.1, entry.2)

variable (answers) in
/-- The file system lets a call create the directories and write the files. -/
structure Writable (dirs : List String) (contents : List (String × List UInt8)) : Prop where
  createDirAll : ∀ dir ∈ dirs, answers.createDirAll dir = .ok ()
  write : ∀ entry ∈ contents, answers.write entry.1 entry.2 = .ok ()

variable (system answers) in
/-- The command succeeds exactly if it can create the directories and write the files, and it has then
    written them. -/
def WritesAll (program : Command Unit) (dirs : List String) (contents : List (String × List UInt8)) :
    Prop :=
  ∀ files after, program files = (.ok (), after) ↔
    Writable answers dirs contents ∧ after = files.putAll (placed system contents)

theorem WritesAll.succeeds {program : Command Unit} {dirs : List String}
    {contents : List (String × List UInt8)} (all : WritesAll system answers program dirs contents)
    (writable : Writable answers dirs contents) (files : Files) :
    program files = (.ok (), (program files).2) := by
  have ran := (all files _).mpr ⟨writable, rfl⟩
  rw [ran]

/-- What a command has written to different files is read back. -/
theorem WritesAll.read {program : Command Unit} {dirs : List String}
    {contents : List (String × List UInt8)} (all : WritesAll system answers program dirs contents)
    (different : (contents.map fun entry => system.place entry.1).Nodup) {files after : Files}
    (ran : program files = (.ok (), after)) {path : String} {content : List UInt8}
    (member : (path, content) ∈ contents) : after (system.place path) = .ok content := by
  obtain ⟨-, rfl⟩ := (all files after).mp ran
  refine Files.putAll_of_mem ?_ (List.mem_map.mpr ⟨_, member, rfl⟩)
  rw [placed, List.map_map]
  exact different

theorem writeFile_eq_ok {path : String} {content : List UInt8} {context : String → String}
    {files after : Files} :
    writeFile system answers path content context files = (.ok (), after) ↔
      answers.write path content = .ok () ∧ after = files.put (system.place path) (.ok content) := by
  unfold writeFile
  cases answers.write path content with
  | ok => simp [eq_comm]
  | error e => simp

theorem createDirAll_eq_ok {dir : String} {context : String → String} {files after : Files} :
    createDirAll answers dir context files = (.ok (), after) ↔
      answers.createDirAll dir = .ok () ∧ after = files := by
  unfold createDirAll
  cases answers.createDirAll dir with
  | ok => simp [Outcome.ofExcept, eq_comm]
  | error e => simp [Outcome.ofExcept]

theorem writesAll_writeFile (path : String) (content : List UInt8) (context : String → String) :
    WritesAll system answers (writeFile system answers path content context) [] [(path, content)] := by
  intro files after
  rw [writeFile_eq_ok]
  constructor
  · rintro ⟨written, rfl⟩
    exact ⟨⟨by simp, by simpa using written⟩, rfl⟩
  · rintro ⟨writable, rfl⟩
    exact ⟨writable.write _ (List.mem_singleton_self _), rfl⟩

theorem WritesAll.writeFile {program : Command Unit} {contents : List (String × List UInt8)}
    (rest : WritesAll system answers program [] contents) (path : String) (content : List UInt8)
    (context : String → String) :
    WritesAll system answers (writeFile system answers path content context >>= fun _ => program) []
      ((path, content) :: contents) := by
  intro files after
  rw [Stateful.bind_eq_ok]
  constructor
  · rintro ⟨_, next, first, later⟩
    obtain ⟨written, rfl⟩ := writeFile_eq_ok.mp first
    obtain ⟨writable, rfl⟩ := (rest _ _).mp later
    exact ⟨⟨by simp, List.forall_mem_cons.mpr ⟨written, writable.write⟩⟩, rfl⟩
  · rintro ⟨writable, rfl⟩
    have all := List.forall_mem_cons.mp writable.write
    exact ⟨(), _, writeFile_eq_ok.mpr ⟨all.1, rfl⟩, (rest _ _).mpr ⟨⟨by simp, all.2⟩, rfl⟩⟩

theorem WritesAll.createDirAll {program : Command Unit} {dirs : List String}
    {contents : List (String × List UInt8)} (rest : WritesAll system answers program dirs contents)
    (dir : String) (context : String → String) :
    WritesAll system answers (createDirAll answers dir context >>= fun _ => program) (dir :: dirs)
      contents := by
  intro files after
  rw [Stateful.bind_eq_ok]
  constructor
  · rintro ⟨_, next, first, later⟩
    obtain ⟨created, rfl⟩ := createDirAll_eq_ok.mp first
    obtain ⟨writable, rfl⟩ := (rest _ _).mp later
    exact ⟨⟨List.forall_mem_cons.mpr ⟨created, writable.createDirAll⟩, writable.write⟩, rfl⟩
  · rintro ⟨writable, rfl⟩
    have all := List.forall_mem_cons.mp writable.createDirAll
    exact ⟨(), files, createDirAll_eq_ok.mpr ⟨all.1, rfl⟩, (rest _ _).mpr ⟨⟨all.2, writable.write⟩, rfl⟩⟩

theorem WritesAll.createParentDir {program : Command Unit} {dirs : List String}
    {contents : List (String × List UInt8)} (rest : WritesAll system answers program dirs contents)
    (path : String) (context : String → String) :
    WritesAll system answers (createParentDir system answers path context >>= fun _ => program)
      ((system.parent path).toList ++ dirs) contents := by
  unfold PackTool.createParentDir
  cases system.parent path with
  | none => exact rest
  | some parent => exact rest.createDirAll parent context

theorem writesAll_stubOnnx (args : List String) :
    let output := (parseArg args "--output").getD "models/active/kavach_multitask_int8.onnx"
    WritesAll system answers (cmdStubOnnx system answers args) ((system.parent output).toList ++ [])
      [(output, OnnxBuilder.generateKavachStubOnnx (((parseArg args "--opset").bind parseI64).getD 21))] :=
  (writesAll_writeFile _ _ _).createParentDir _ _

/-- What the key generator writes into its directory. -/
def keyFiles (tools : Tools SigningKey Key Value) (system : System) (dir : String) (seed : Bytes 32) :
    List (String × List UInt8) :=
  let pubBytes := (tools.toBytes (tools.signing.verifyingKey (tools.signing.fromBytes seed))).toList
  [(join system dir "sign.key", seed.toList),
    (join system dir "sign.key.hex", asBytes (tools.manifest.hexEncode seed.toList)),
    (join system dir "pub.key", pubBytes),
    (join system dir "pub.key.hex", asBytes (tools.manifest.hexEncode pubBytes))]

theorem writesAll_keygen (args : List String) (seed : Bytes 32) :
    WritesAll system answers (cmdKeygen tools system answers args seed)
      [(parseArg args "--output").getD "keys"]
      (keyFiles tools system ((parseArg args "--output").getD "keys") seed) := by
  unfold cmdKeygen
  refine WritesAll.createDirAll ?_ _ _
  refine WritesAll.writeFile ?_ _ _ _
  refine WritesAll.writeFile ?_ _ _ _
  refine WritesAll.writeFile ?_ _ _ _
  exact writesAll_writeFile _ _ _

/-- The signing command writes what it has signed. -/
theorem cmdSign_eq_ok {args : List String} {files after : Files} :
    cmdSign tools system answers args files = (.ok (), after) ↔
      ∃ output text, signManifest tools.manifest tools.signing (packHost system answers files) args =
          .ok (output, text) ∧
        answers.write output (asBytes text) = .ok () ∧
        after = files.put (system.place output) (.ok (asBytes text)) := by
  unfold cmdSign
  rw [Stateful.bind_eq_ok]
  constructor
  · rintro ⟨⟨output, text⟩, _, first, written⟩
    obtain ⟨signed, rfl⟩ := Prod.mk.inj first
    exact ⟨output, text, signed, writeFile_eq_ok.mp written⟩
  · rintro ⟨output, text, signed, written⟩
    exact ⟨(output, text), files, Prod.ext signed rfl, writeFile_eq_ok.mpr written⟩

theorem cmdVerify_eq_ok {args : List String} {files : Files} :
    cmdVerify tools system args files = (.ok (), files) ↔
      ∃ key m, loadVerifyingKey tools (fileSystem system files).read (parseArg args "--pubkey") = .ok key ∧
        verifyBundleDir tools.manifest (fileSystem system files)
          ((parseArg args "--bundle").getD "models/active") key
          (((parseArg args "--rollback").bind parseU64).getD 1) = .ok m := by
  unfold cmdVerify
  constructor
  · intro ran
    obtain ⟨key, _, first, ran⟩ := Stateful.bind_eq_ok.mp ran
    obtain ⟨m, _, second, -⟩ := Stateful.bind_eq_ok.mp ran
    obtain ⟨loaded, rfl⟩ := Prod.mk.inj first
    exact ⟨key, m, loaded, Outcome.mapErr_eq_ok.mp (Prod.mk.inj second).1⟩
  · rintro ⟨key, m, loaded, verified⟩
    simp only [Stateful.reading_bind, loaded, Outcome.mapErr_eq_ok.mpr verified, Stateful.pure_apply]

end Results

/-! ### Releases -/

section Releases

variable {SigningKey Key Value : Type} (tools : Tools SigningKey Key Value) (system : System)

/-- The public key of a seed. -/
def publicKey (seed : Bytes 32) : Key :=
  tools.signing.verifyingKey (tools.signing.fromBytes seed)

/-- Ed25519 on the key pair of a seed: the public bytes are its key, and what it signs verifies. -/
structure WorkingPair (seed : Bytes 32) : Prop where
  decoded : tools.manifest.verifyingKeyFromBytes (tools.toBytes (publicKey tools seed)) =
    .ok (publicKey tools seed)
  verifies : ∀ digest, tools.manifest.verifyStrict (publicKey tools seed) digest
    (tools.signing.sign (tools.signing.fromBytes seed) digest) = .ok ()

/-- The signature of a text with the key of a seed, as it is written. -/
def signatureText (seed : Bytes 32) (M : List UInt8) : String :=
  encodeBase64 (tools.signing.sign (tools.signing.fromBytes seed) (tools.manifest.sha256 M).toList).toList

/-- The directory holds the manifest and its signature with the key of the seed. -/
structure Signed (files : Files) (bundleDir : String) (seed : Bytes 32) (M : List UInt8) : Prop where
  manifest : files (system.place (join system bundleDir "manifest.json")) = .ok M
  signature : files (system.place (join system bundleDir "manifest.sig")) =
    .ok (asBytes (signatureText tools seed M))

/-- What the loader asks of a bundle besides its signature: a manifest of a supported version, of a generation
    not below the minimum, and the model it names, of the hash it gives. -/
structure Loadable (files : Files) (bundleDir : String) (minimum : UInt64) (M : List UInt8)
    (m : ModelManifest) : Prop where
  major : m.artifactVersion.major = 1
  generation : minimum ≤ m.rollbackGeneration
  model : ∃ value name O, tools.manifest.valueFromSlice M = .ok value ∧
    (tools.manifest.pointer value "/onnx/file").bind tools.manifest.asStr = some name ∧
    files (system.place (join system bundleDir name)) = .ok O ∧
    tools.manifest.hexEncode (tools.manifest.sha256 O).toList = m.onnx.sha256.toLower

variable {tools system}

/-- A bundle whose manifest is signed verifies exactly if the loader asks for nothing else. -/
theorem verifyBundleDir_of_signed {files : Files} {bundleDir : String} {M : List UInt8}
    {m m' : ModelManifest} {seed : Bytes 32} {minimum : UInt64} (pair : WorkingPair tools seed)
    (signed : Signed tools system files bundleDir seed M) (parsed : tools.manifest.fromSlice M = .ok m) :
    verifyBundleDir tools.manifest (fileSystem system files) bundleDir (publicKey tools seed) minimum =
        .ok m' ↔ m' = m ∧ Loadable tools system files bundleDir minimum M m := by
  rw [verifyBundleDir_eq_ok]
  constructor
  · rintro ⟨M', s, O, ⟨manifest, _, value, name, isValue, named, model⟩, verified⟩
    cases signed.manifest.symm.trans manifest
    cases parsed.symm.trans verified.parsed
    exact ⟨rfl, verified.major, verified.generation, value, name, O, isValue, named, model, verified.hash⟩
  · rintro ⟨rfl, major, generation, value, name, O, isValue, named, model, hash⟩
    exact ⟨M, _, O, ⟨signed.manifest, signed.signature, value, name, isValue, named, model⟩, parsed, major,
      generation, ⟨_, decodeBase64_of_rewritten (Rewritten.refl _), pair.verifies _⟩, hash⟩

/-- The daemon takes the bundles that the tool verifies. -/
theorem fromConfig_of_signed {S : Type} {files : Files} {npuHost : NpuHost S} {bundleDir : String}
    {M : List UInt8} {m : ModelManifest} {seed : Bytes 32} {minimum : UInt64}
    (pair : WorkingPair tools seed) (signed : Signed tools system files bundleDir seed M)
    (parsed : tools.manifest.fromSlice M = .ok m) :
    NpuSession.fromConfig tools.manifest (fileSystem system files) npuHost ⟨bundleDir, minimum⟩
        (tools.toBytes (publicKey tools seed)) = .ok (NpuSession.newActive npuHost m) ↔
      Loadable tools system files bundleDir minimum M m := by
  unfold NpuSession.fromConfig
  rw [pair.decoded]
  simp only
  constructor
  · intro active
    split at active
    · rename_i m' verified
      exact ((verifyBundleDir_of_signed pair signed parsed).mp verified).2
    · cases active
    · cases active
  · intro loadable
    simp only [(verifyBundleDir_of_signed pair signed parsed).mpr ⟨rfl, loadable⟩]

/-- Verifying with the key of a bundle's signature succeeds exactly if the bundle can be loaded. -/
theorem run_verify_of_signed {files : Files} {bundleDir pubPath : String} {M pubData : List UInt8}
    {m : ModelManifest} {seed : Bytes 32} (hex : LawfulHex tools) (pair : WorkingPair tools seed)
    (signed : Signed tools system files bundleDir seed M) (parsed : tools.manifest.fromSlice M = .ok m)
    {args : List String} (bundle : (parseArg args "--bundle").getD "models/active" = bundleDir)
    (pubkey : (parseArg args "--pubkey").map system.place = some (system.place pubPath))
    (read : files (system.place pubPath) = .ok pubData)
    (holds : HoldsKey pubData (tools.toBytes (publicKey tools seed))) (verifySeed : Bytes 32)
    (answers : Answers) :
    run tools system ⟨"verify" :: args, verifySeed, answers⟩ files = (.ok (), files) ↔
      Loadable tools system files bundleDir (((parseArg args "--rollback").bind parseU64).getD 1) M m := by
  obtain ⟨path, argument, same⟩ := Option.map_eq_some_iff.mp pubkey
  have loaded : loadVerifyingKey tools (fileSystem system files).read (parseArg args "--pubkey") =
      .ok (publicKey tools seed) := by
    rw [argument]
    refine (loadVerifyingKey_eq_ok hex).mpr ⟨pubData, _, ?_, holds, pair.decoded⟩
    exact (congrArg files same).trans read
  refine cmdVerify_eq_ok.trans ?_
  rw [loaded, bundle]
  constructor
  · rintro ⟨key, m', isKey, verified⟩
    cases isKey
    exact ((verifyBundleDir_of_signed pair signed parsed).mp verified).2
  · intro loadable
    exact ⟨_, m, rfl, (verifyBundleDir_of_signed pair signed parsed).mpr ⟨rfl, loadable⟩⟩

variable (system)

/-- The files of a release: both forms of both keys, the manifest and its signature. -/
def releasePaths (keysDir bundleDir : String) : List String :=
  ["sign.key", "sign.key.hex", "pub.key", "pub.key.hex"].map (join system keysDir) ++
    ["manifest.json", "manifest.sig"].map (join system bundleDir)

/-- The arguments of a release: keys are generated into `keysDir`, the manifest of `bundleDir` is signed with
    one of the two secret key files, and the bundle is verified with one of the two public ones. The paths may
    be spelled in any way that leads to these files. -/
structure ReleaseArgs (keygenArgs signArgs verifyArgs : List String)
    (keysDir bundleDir keyName pubName : String) : Prop where
  keygen : (parseArg keygenArgs "--output").getD "keys" = keysDir
  isKey : keyName ∈ ["sign.key", "sign.key.hex"]
  isPub : pubName ∈ ["pub.key", "pub.key.hex"]
  key : (parseArg signArgs "--key").map system.place = some (system.place (join system keysDir keyName))
  manifest : (parseArg signArgs "--manifest").map system.place =
    some (system.place (join system bundleDir "manifest.json"))
  output : ∀ manifestFile, parseArg signArgs "--manifest" = some manifestFile →
    system.place ((parseArg signArgs "--output").getD
        (join system ((system.parent manifestFile).getD ".") "manifest.sig")) =
      system.place (join system bundleDir "manifest.sig")
  bundle : (parseArg verifyArgs "--bundle").getD "models/active" = bundleDir
  pubkey : (parseArg verifyArgs "--pubkey").map system.place =
    some (system.place (join system keysDir pubName))

variable {system}

/-- After a key generation that succeeds, both secret key files hold the seed, and both public ones the public
    bytes. -/
theorem holdsKey_keyFiles (hex : LawfulHex tools) {args : List String} {keysDir : String} {seed : Bytes 32}
    {answers : Answers} {files after : Files}
    (dir : (parseArg args "--output").getD "keys" = keysDir)
    (different : ((keyFiles tools system keysDir seed).map fun entry => system.place entry.1).Nodup)
    (generated : cmdKeygen tools system answers args seed files = (.ok (), after))
    {keyName pubName : String} (isKey : keyName ∈ ["sign.key", "sign.key.hex"])
    (isPub : pubName ∈ ["pub.key", "pub.key.hex"]) :
    (∃ data, after (system.place (join system keysDir keyName)) = .ok data ∧ HoldsKey data seed) ∧
      ∃ data, after (system.place (join system keysDir pubName)) = .ok data ∧
        HoldsKey data (tools.toBytes (publicKey tools seed)) := by
  subst dir
  have read : ∀ path content,
      (path, content) ∈ keyFiles tools system ((parseArg args "--output").getD "keys") seed →
        after (system.place path) = .ok content :=
    fun _ _ member => (writesAll_keygen args seed).read different generated member
  obtain ⟨rawKey, hexKey⟩ := holdsKey_of_written hex seed
  obtain ⟨rawPub, hexPub⟩ := holdsKey_of_written hex (tools.toBytes (publicKey tools seed))
  constructor
  · rcases List.mem_pair.mp isKey with rfl | rfl
    · exact ⟨_, read _ _ (by simp [keyFiles]), rawKey⟩
    · exact ⟨_, read _ _ (by simp [keyFiles]), hexKey⟩
  · rcases List.mem_pair.mp isPub with rfl | rfl
    · exact ⟨_, read _ _ (by simp [keyFiles, publicKey]), rawPub⟩
    · exact ⟨_, read _ _ (by simp [keyFiles, publicKey]), hexPub⟩

/-- A call that signs a manifest with a key leaves the manifest and its signature. -/
theorem signed_of_cmdSign (hex : LawfulHex tools) {args : List String} {bundleDir keyPath : String}
    {seed : Bytes 32} {answers : Answers} {files after : Files} {keyData : List UInt8}
    (key : (parseArg args "--key").map system.place = some (system.place keyPath))
    (keyRead : files (system.place keyPath) = .ok keyData) (holds : HoldsKey keyData seed)
    (manifest : (parseArg args "--manifest").map system.place =
      some (system.place (join system bundleDir "manifest.json")))
    (output : ∀ manifestFile, parseArg args "--manifest" = some manifestFile →
      system.place ((parseArg args "--output").getD
          (join system ((system.parent manifestFile).getD ".") "manifest.sig")) =
        system.place (join system bundleDir "manifest.sig"))
    (apart : system.place (join system bundleDir "manifest.json") ≠
      system.place (join system bundleDir "manifest.sig"))
    (ran : cmdSign tools system answers args files = (.ok (), after)) :
    ∃ M m, Signed tools system after bundleDir seed M ∧ tools.manifest.fromSlice M = .ok m ∧
      ∀ place, place ≠ system.place (join system bundleDir "manifest.sig") →
        after place = files place := by
  obtain ⟨written, text, signs, -, rfl⟩ := cmdSign_eq_ok.mp ran
  obtain ⟨keyFile, manifestFile, sk, M, m, keyArg, manifestArg, loaded, read, parsed, rfl, rfl⟩ :=
    (SignedBundle.signManifest_eq_ok _).mp signs
  rw [keyArg, Option.map_some, Option.some.injEq] at key
  rw [manifestArg, Option.map_some, Option.some.injEq] at manifest
  have isSeed : sk = tools.signing.fromBytes seed := by
    have again : loadSigningKey tools.signing (packHost system answers files) keyFile =
        .ok (tools.signing.fromBytes seed) :=
      (loadSigningKey_eq_ok hex).mpr ⟨keyData, seed, (congrArg files key).trans keyRead, holds, rfl⟩
    exact Outcome.ok.inj (loaded.symm.trans again)
  have place := output manifestFile manifestArg
  have kept : ∀ other, other ≠ system.place (join system bundleDir "manifest.sig") →
      files.put (system.place ((parseArg args "--output").getD
          (join system ((system.parent manifestFile).getD ".") "manifest.sig")))
        (.ok (asBytes (encodeBase64
          (tools.signing.sign sk (tools.manifest.sha256 M).toList).toList))) other = files other := by
    intro other ne
    exact Files.put_of_ne (place ▸ ne) _
  refine ⟨M, m, ⟨?_, ?_⟩, parsed, kept⟩
  · refine (kept _ apart).trans ?_
    rw [← manifest]
    exact read
  · rw [← place, isSeed]
    exact Files.put_self _ _ _

/-- A release over a history. Keys are generated, later a manifest is signed with them, and still later the
    bundle is verified, each key in either of its files. Suppose that the first two calls succeed, that the
    key files, the manifest and the signature are different files, and that no call writes a key file before
    it is used, or the manifest or the signature after the signing. Then the bundle verifies exactly if the
    signed manifest is of a supported version and of a generation not below the minimum and the model it
    names is there with its hash; and a daemon with the public key is active with the manifest under the same
    condition on its own minimum. -/
theorem release_verifies {S : Type} (hex : LawfulHex tools) {seed : Bytes 32}
    (pair : WorkingPair tools seed) {keygenArgs signArgs verifyArgs : List String}
    {keysDir bundleDir keyName pubName : String}
    (args : ReleaseArgs system keygenArgs signArgs verifyArgs keysDir bundleDir keyName pubName)
    (different : ((releasePaths system keysDir bundleDir).map system.place).Nodup)
    (keygenAnswers signAnswers verifyAnswers : Answers) (signSeed verifySeed : Bytes 32) (start : Files)
    (between later : List Invocation) (npuHost : NpuHost S)
    (generated : (run tools system ⟨"keygen" :: keygenArgs, seed, keygenAnswers⟩ start).1 = .ok ())
    (signed : (run tools system ⟨"sign" :: signArgs, signSeed, signAnswers⟩
      (final (step tools system) start
        (⟨"keygen" :: keygenArgs, seed, keygenAnswers⟩ :: between))).1 = .ok ())
    (keptKey : ∀ call ∈ between, system.place (join system keysDir keyName) ∉ writes system call)
    (keptPub : ∀ call ∈ between ++ later, system.place (join system keysDir pubName) ∉ writes system call)
    (keptBundle : ∀ call ∈ later, ∀ name ∈ ["manifest.json", "manifest.sig"],
      system.place (join system bundleDir name) ∉ writes system call) :
    let last := final (step tools system) start
      (⟨"keygen" :: keygenArgs, seed, keygenAnswers⟩ :: between ++
        ⟨"sign" :: signArgs, signSeed, signAnswers⟩ :: later)
    ∃ M m, last (system.place (join system bundleDir "manifest.json")) = .ok M ∧
      tools.manifest.fromSlice M = .ok m ∧
      (run tools system ⟨"verify" :: verifyArgs, verifySeed, verifyAnswers⟩ last = (.ok (), last) ↔
        Loadable tools system last bundleDir (((parseArg verifyArgs "--rollback").bind parseU64).getD 1)
          M m) ∧
      ∀ minimum, NpuSession.fromConfig tools.manifest (fileSystem system last) npuHost
            ⟨bundleDir, minimum⟩ (tools.toBytes (publicKey tools seed)) =
          .ok (NpuSession.newActive npuHost m) ↔
        Loadable tools system last bundleDir minimum M m := by
  intro last
  rw [releasePaths, List.map_append, List.nodup_append] at different
  obtain ⟨keysDiffer, bundleDiffers, keysApart⟩ := different
  have apart : system.place (join system bundleDir "manifest.json") ≠
      system.place (join system bundleDir "manifest.sig") := by
    simpa using bundleDiffers
  have pubApart : system.place (join system keysDir pubName) ≠
      system.place (join system bundleDir "manifest.sig") := by
    apply keysApart
    · rcases List.mem_pair.mp args.isPub with rfl | rfl
      · simp
      · simp
    · simp
  let fresh := (cmdKeygen tools system keygenAnswers keygenArgs seed start).2
  let signing := final (step tools system) fresh between
  let after := (cmdSign tools system signAnswers signArgs signing).2
  have began : cmdKeygen tools system keygenAnswers keygenArgs seed start = (.ok (), fresh) :=
    Prod.ext generated rfl
  have ran : cmdSign tools system signAnswers signArgs signing = (.ok (), after) := Prod.ext signed rfl
  obtain ⟨⟨keyData, keyRead, keyHeld⟩, pubData, pubRead, pubHeld⟩ :=
    holdsKey_keyFiles hex args.keygen keysDiffer began args.isKey args.isPub
  rw [List.forall_mem_append] at keptPub
  obtain ⟨M, m, signedThen, parsed, others⟩ := signed_of_cmdSign hex args.key
    ((untouched_history tools keptKey).trans keyRead) keyHeld args.manifest args.output apart ran
  have ended : last = final (step tools system) after later := final_append start _ _
  have keptName : ∀ name ∈ ["manifest.json", "manifest.sig"],
      last (system.place (join system bundleDir name)) =
        after (system.place (join system bundleDir name)) := by
    intro name member
    rw [ended]
    exact untouched_history tools fun call called => keptBundle call called name member
  have signedNow : Signed tools system last bundleDir seed M :=
    ⟨(keptName _ (by simp)).trans signedThen.manifest, (keptName _ (by simp)).trans signedThen.signature⟩
  have pubKept : last (system.place (join system keysDir pubName)) = .ok pubData := by
    rw [ended, untouched_history tools keptPub.2, others _ pubApart]
    exact (untouched_history tools keptPub.1).trans pubRead
  refine ⟨M, m, signedNow.manifest, parsed, ?_, fun minimum => fromConfig_of_signed pair signedNow parsed⟩
  exact run_verify_of_signed hex pair signedNow parsed args.bundle args.pubkey pubKept pubHeld verifySeed
    verifyAnswers

end Releases

/-! ### A release of the shipped manifest -/

open SignedBundle NpuSession

/-- On a Unix host without links, dots and repeated slashes make no difference to where a path leads. -/
def samplePlace (path : String) : Place :=
  let names := (path.toList.splitOnP (· == '/')).filter fun name => name ≠ [] ∧ name ≠ ['.']
  let root := if path.toList.head? = some '/' then ['/'] else []
  ⟨String.ofList (root ++ List.intercalate ['/'] names)⟩

def sampleSystem : System where
  pathHost := .unix
  parent := fun path =>
    if path = "models/active/manifest.json" ∨ path = "models/active/kavach_multitask_int8.onnx" then
      some "models/active"
    else
      none
  place := samplePlace

/-- Every directory can be created and every file written. -/
def sampleAnswers : Answers where
  createDirAll := fun _ => .ok ()
  write := fun _ _ => .ok ()
  leftBehind := fun _ _ => .error "No such file or directory (os error 2)"

/-- A disk with the shipped manifest. -/
def sampleFiles : Files := fun place =>
  if place = ⟨"models/active/manifest.json"⟩ then .ok (asBytes shippedManifestText)
  else .error "No such file or directory (os error 2)"

theorem samplePublic_eq : publicKey sampleTools sampleSecret = samplePublic := by
  simp only [publicKey, sampleTools, sampleSigning, if_true]

theorem samplePair : WorkingPair sampleTools sampleSecret where
  decoded := by
    rw [samplePublic_eq]
    simp only [sampleTools, if_true]
  verifies := by
    intro digest
    rw [samplePublic_eq]
    simp only [sampleTools, sampleSigning, and_self, if_true]

def sampleKeygen : Invocation :=
  ⟨["keygen"], sampleSecret, sampleAnswers⟩

def sampleStub : Invocation :=
  ⟨["stub-onnx"], sampleSecret, sampleAnswers⟩

/-- The key is named by another spelling of its path. -/
def sampleSign : Invocation :=
  ⟨["sign", "--key", "./keys/sign.key", "--manifest", "models/active/manifest.json"], sampleSecret,
    sampleAnswers⟩

theorem sampleArgs_release : ReleaseArgs sampleSystem []
    ["--key", "./keys/sign.key", "--manifest", "models/active/manifest.json"]
    ["--pubkey", "keys//pub.key.hex"] "keys" "models/active" "sign.key" "pub.key.hex" where
  keygen := rfl
  isKey := by decide
  isPub := by decide
  key := by decide
  manifest := by decide
  output := by
    intro manifestFile argument
    cases argument
    decide
  bundle := rfl
  pubkey := by decide

/-- Another key pair is generated elsewhere. -/
def sampleLater : Invocation :=
  ⟨["keygen", "--output", "./other"], sampleSecret, sampleAnswers⟩

theorem sampleAnswers_writable (dirs : List String) (contents : List (String × List UInt8)) :
    Writable sampleAnswers dirs contents :=
  ⟨fun _ _ => rfl, fun _ _ => rfl⟩

theorem writesAll_sampleKeygen : WritesAll sampleSystem sampleAnswers
    (run sampleTools sampleSystem sampleKeygen) ["keys"]
    (keyFiles sampleTools sampleSystem "keys" sampleSecret) :=
  writesAll_keygen [] sampleSecret

theorem writesAll_sampleStub : WritesAll sampleSystem sampleAnswers
    (run sampleTools sampleSystem sampleStub) ["models/active"]
    [("models/active/kavach_multitask_int8.onnx", OnnxBuilder.generateKavachStubOnnx 21)] :=
  writesAll_stubOnnx []

/-- Before the signing there are the key, the manifest and the model. -/
theorem sampleFiles_written :
    let files := final (step sampleTools sampleSystem) sampleFiles [sampleKeygen, sampleStub]
    files (samplePlace "keys/sign.key") = .ok sampleSecret.toList ∧
      files (samplePlace "models/active/manifest.json") = .ok (asBytes shippedManifestText) ∧
      files (samplePlace "models/active/kavach_multitask_int8.onnx") = .ok shippedOnnx := by
  intro files
  have keyOutside : ∀ call ∈ [sampleStub], samplePlace "keys/sign.key" ∉ writes sampleSystem call := by
    decide
  have manifestOutside : ∀ call ∈ [sampleKeygen, sampleStub],
      samplePlace "models/active/manifest.json" ∉ writes sampleSystem call := by
    decide
  refine ⟨?_, ?_, ?_⟩
  · have parts : files = final (step sampleTools sampleSystem)
        (final (step sampleTools sampleSystem) sampleFiles [sampleKeygen]) [sampleStub] :=
      final_append sampleFiles [sampleKeygen] [sampleStub]
    rw [parts, untouched_history sampleTools keyOutside]
    have different : ((keyFiles sampleTools sampleSystem "keys" sampleSecret).map
        fun entry => sampleSystem.place entry.1).Nodup := by
      decide
    have member : (join sampleSystem "keys" "sign.key", sampleSecret.toList) ∈
        keyFiles sampleTools sampleSystem "keys" sampleSecret :=
      List.mem_cons_self
    have named : join sampleSystem "keys" "sign.key" = "keys/sign.key" := by decide
    rw [← named]
    exact writesAll_sampleKeygen.read different
      (writesAll_sampleKeygen.succeeds (sampleAnswers_writable _ _) _) member
  · refine (untouched_history sampleTools manifestOutside).trans ?_
    exact if_pos (by decide)
  · have stub := writesAll_sampleStub.succeeds (sampleAnswers_writable _ _)
      (final (step sampleTools sampleSystem) sampleFiles [sampleKeygen])
    rw [OnnxBuilder.shippedOnnx_eq]
    exact writesAll_sampleStub.read (List.nodup_singleton _) stub (List.mem_singleton_self _)

theorem sampleManifest_parsed :
    sampleTools.manifest.fromSlice (asBytes shippedManifestText) = .ok shippedManifest := by
  have parse : sampleTools.manifest.fromSlice = shippedExternals.fromSlice := rfl
  rw [parse]
  exact shippedBundle_verifies.parsed

theorem sampleSign_succeeds {files : Files}
    (key : files (samplePlace "keys/sign.key") = .ok sampleSecret.toList)
    (manifest : files (samplePlace "models/active/manifest.json") = .ok (asBytes shippedManifestText)) :
    (run sampleTools sampleSystem sampleSign files).1 = .ok () := by
  have loaded : loadSigningKey sampleTools.signing (packHost sampleSystem sampleAnswers files)
      "./keys/sign.key" = .ok sampleSecret := by
    refine (loadSigningKey_eq_ok sampleTools_hex).mpr ⟨sampleSecret.toList, sampleSecret, ?_, .inl rfl, rfl⟩
    have same : samplePlace "./keys/sign.key" = samplePlace "keys/sign.key" := by decide
    exact (congrArg files same).trans key
  have signed : ∃ output text, signManifest sampleTools.manifest sampleTools.signing
      (packHost sampleSystem sampleAnswers files)
      ["--key", "./keys/sign.key", "--manifest", "models/active/manifest.json"] = .ok (output, text) :=
    ⟨_, _, (signManifest_eq_ok _).mpr ⟨_, _, _, _, _, by decide, by decide, loaded, manifest,
      sampleManifest_parsed, rfl, rfl⟩⟩
  obtain ⟨output, text, signed⟩ := signed
  exact congrArg Prod.fst (cmdSign_eq_ok.mpr ⟨output, text, signed, rfl, rfl⟩)

/-- The shipped manifest, released with these keys, is verified by the tool and taken by the daemon. -/
theorem sampleRelease_verifies :
    let last := final (step sampleTools sampleSystem) sampleFiles
      [sampleKeygen, sampleStub, sampleSign, sampleLater]
    run sampleTools sampleSystem ⟨["verify", "--pubkey", "keys//pub.key.hex"], sampleSecret, sampleAnswers⟩
        last = (.ok (), last) ∧
      fromConfig sampleTools.manifest (fileSystem sampleSystem last) shippedHost ⟨"models/active", 1⟩
        samplePublic = .ok (newActive shippedHost shippedManifest) := by
  intro last
  obtain ⟨key, manifestRead, modelRead⟩ := sampleFiles_written
  obtain ⟨M, m, manifest, parsed, verifies, active⟩ := release_verifies sampleTools_hex samplePair
    sampleArgs_release (by decide) sampleAnswers sampleAnswers sampleAnswers sampleSecret sampleSecret
    sampleFiles [sampleStub] [sampleLater] shippedHost
    (congrArg Prod.fst (writesAll_sampleKeygen.succeeds (sampleAnswers_writable _ _) sampleFiles))
    (sampleSign_succeeds key manifestRead) (by decide) (by decide) (by decide)
  have kept : ∀ path ∈ ["models/active/manifest.json", "models/active/kavach_multitask_int8.onnx"],
      last (samplePlace path) = final (step sampleTools sampleSystem) sampleFiles [sampleKeygen, sampleStub]
        (samplePlace path) := by
    intro path member
    have outside : ∀ path ∈ ["models/active/manifest.json", "models/active/kavach_multitask_int8.onnx"],
        ∀ call ∈ [sampleSign, sampleLater], samplePlace path ∉ writes sampleSystem call := by
      decide
    have continued : last = final (step sampleTools sampleSystem)
        (final (step sampleTools sampleSystem) sampleFiles [sampleKeygen, sampleStub])
        [sampleSign, sampleLater] := final_append sampleFiles [sampleKeygen, sampleStub] _
    rw [continued]
    exact untouched_history sampleTools (outside path member)
  have isManifest : M = asBytes shippedManifestText := by
    have read := (kept _ (by decide)).trans manifestRead
    exact Except.ok.inj (manifest.symm.trans read)
  subst isManifest
  have isShipped : m = shippedManifest := Except.ok.inj (parsed.symm.trans sampleManifest_parsed)
  subst isShipped
  have loadable : Loadable sampleTools sampleSystem last "models/active" 1 (asBytes shippedManifestText)
      shippedManifest := by
    have value : sampleTools.manifest.valueFromSlice (asBytes shippedManifestText) =
        .ok shippedManifestText := by
      simp only [sampleTools, sampleExternals, shippedExternals, if_true]
    have named : sampleTools.manifest.pointer shippedManifestText "/onnx/file" =
        some shippedManifest.onnx.file := by
      simp only [sampleTools, sampleExternals, shippedExternals, and_self, if_true]
    refine ⟨rfl, by decide, shippedManifestText, shippedManifest.onnx.file, shippedOnnx, value, ?_, ?_, ?_⟩
    · rw [named]
      rfl
    · exact (kept _ (by decide)).trans modelRead
    · exact shippedBundle_verifies.hash
  rw [samplePublic_eq] at active
  exact ⟨verifies.mpr loadable, (active 1).mpr loadable⟩

end KavachNpu.PackTool
