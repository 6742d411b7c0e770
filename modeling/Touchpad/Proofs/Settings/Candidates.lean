import Touchpad.Proofs.Settings.Preference

/-!
# The first file is loaded

The search tries its candidates in order, and only what is not a file is passed over. What the first
file says counts, even if it cannot be opened or says no options, and the built-in options are left
for the case that there is no file at all. The last candidate adds nothing to those before it unless
no directory for shared data has anything for the program.

* `Entry.options`: what comes of opening a path says about the options
* `Search.exists_first_file`: the search stops at the first file
* `Config.load_eq_access_iff`: the first file cannot be opened
* `Search.base?_eq_none_of_isFile`: when the last candidate is the one that is found
* `Config.usingDefaults_mem_loadNotes_iff`: when the built-in options are in use
* `Config.search_law`: what is loaded, and what decides it
-/

namespace Touchpad

/-! ## What is found says -/

/-- The options that what is opened stands for. -/
def Entry.options (look : Except AccessError Entry) : Except LoadError Config :=
  match look with
  | .error cause => .error (.access cause)
  | .ok .directory => .error .malformed
  | .ok (.file content) | .ok (.special content) =>
    match (String.fromUTF8? content).bind Config.parse? with
    | some c => .ok c
    | none => .error .malformed

/-- Loading a file is opening it, and reading options off what was opened. -/
theorem Config.fromFile_eq (f : Files) (path : String) :
    fromFile f path = Entry.options (f.look path) := by
  unfold fromFile Files.parsed Files.text? Entry.options
  rcases f.look path with cause | content | _ | content
  · rfl
  · dsimp only
    cases (String.fromUTF8? content).bind parse? <;> rfl
  · rfl
  · dsimp only
    cases (String.fromUTF8? content).bind parse? <;> rfl

/-- What was opened never fails to be read for want of access. -/
theorem Entry.options_ok_ne_access (entry : Entry) (cause : AccessError) :
    options (.ok entry) ≠ .error (.access cause) := by
  unfold options
  cases entry with
  | directory => exact nofun
  | file content | special content =>
    dsimp only
    cases (String.fromUTF8? content).bind Config.parse? <;> exact nofun

namespace Search

variable {f : Files} {e : Environment}

/-- A file is one that can be opened or one that cannot. -/
theorem isFile_iff {path : String} : f.isFile path = true ↔
    (∃ content, f.find path = .ok (.file content)) ∨
      ∃ cause, f.find path = .closed .file cause := by
  unfold Files.isFile
  rcases f.find path with (content | _ | content) | ⟨kind, cause⟩ | cause <;>
    simp [Found.kind?, Entry.kind]

/-! ## The first file -/

/-- The candidates in front of the first file are looked at, and then the file itself. -/
theorem triedPaths_append {before after : List String} {path : String}
    (hbefore : ∀ p ∈ before, f.isFile p = false) (h : f.isFile path = true) :
    triedPaths f (before ++ path :: after) = before ++ [path] := by
  induction before with
  | nil => simp [triedPaths, h]
  | cons p before ih =>
    obtain ⟨hp, hbefore⟩ := List.forall_mem_cons.mp hbefore
    simp [triedPaths, hp, ih hbefore]

/-- Without a file all candidates are looked at. -/
theorem triedPaths_of_forall {paths : List String} (h : ∀ p ∈ paths, f.isFile p = false) :
    triedPaths f paths = paths := by
  induction paths with
  | nil => rfl
  | cons p paths ih =>
    obtain ⟨hp, h⟩ := List.forall_mem_cons.mp h
    simp [triedPaths, hp, ih h]

/-- What comes behind the first file does not matter to the search. -/
theorem find?_eq_of_start {paths before : List String} {path : String}
    (hstart : before ++ [path] <+: paths) (hbefore : ∀ p ∈ before, f.isFile p = false)
    (h : f.isFile path = true) : paths.find? f.isFile = some path := by
  obtain ⟨after, rfl⟩ := hstart
  refine List.find?_eq_some_iff_append.mpr ⟨h, before, after, by simp, fun p hp => ?_⟩
  simp [hbefore p hp]

/-- **The search stops at the first file**, if there is one. -/
theorem exists_first_file {paths : List String} (h : ∃ path ∈ paths, f.isFile path = true) :
    ∃ before path after, paths = before ++ path :: after ∧
      (∀ p ∈ before, f.isFile p = false) ∧ f.isFile path = true := by
  cases hfind : paths.find? f.isFile with
  | none =>
    obtain ⟨path, hmem, hfile⟩ := h
    exact absurd hfile (List.find?_eq_none.mp hfind path hmem)
  | some path =>
    obtain ⟨hfile, before, after, hsplit, hbefore⟩ := List.find?_eq_some_iff_append.mp hfind
    exact ⟨before, path, after, hsplit, fun p hp => by simpa using hbefore p hp, hfile⟩

/-! ## The last candidate -/

/-- The candidates in front of the last one. -/
def listed (f : Files) (e : Environment) : List String :=
  systemFile :: (existing f e.userConfig? e.systemConfig ++ existing f e.userData? e.systemData)

theorem configPaths_eq (f : Files) (e : Environment) :
    configPaths f e = listed f e ++ [Path.join (base f e) fileName] := rfl

/-- A file in a directory for shared data is a candidate in its own right. -/
theorem optionsIn_mem_listed {dir : String} (hdir : dir ∈ e.systemData)
    (h : f.isFile (optionsIn dir) = true) : optionsIn dir ∈ listed f e := by
  have hmem : optionsIn dir ∈ existing f e.userData? e.systemData := by
    unfold existing
    rw [List.mem_filter]
    refine ⟨List.mem_map_of_mem ?_, exists?_of_isFile h⟩
    exact List.mem_append_left _ (List.mem_reverse.mpr hdir)
  exact List.mem_cons_of_mem _ (List.mem_append_right _ hmem)

/-- **The last candidate is only found if no directory has anything for the program.** -/
theorem base?_eq_none_of_isFile (hlisted : ∀ path ∈ listed f e, f.isFile path = false)
    (hlast : f.isFile (Path.join (base f e) fileName) = true) : base? f e = none := by
  cases hbase : base? f e with
  | none => rfl
  | some found =>
    -- the file in this directory is among the existing ones
    obtain ⟨dir, hdir, rfl⟩ := List.mem_map.mp (List.mem_of_find?_eq_some hbase)
    have hfile : f.isFile (optionsIn dir) = true := by
      rwa [base, hbase] at hlast
    rw [hlisted _ (optionsIn_mem_listed hdir hfile)] at hfile
    cases hfile

/-- No directory for shared data is in use only if none of them has anything for the program. -/
theorem not_exists_of_base?_eq_none (h : base? f e = none) :
    ∀ dir ∈ e.systemData, f.exists? (programDirectory dir) = false := by
  intro dir hdir
  have hnone := List.find?_eq_none.mp h (programDirectory dir) (List.mem_map_of_mem hdir)
  simpa using hnone

/-- The file in the fallback directory. -/
theorem join_base_of_eq_none (h : base? f e = none) :
    Path.join (base f e) fileName = "/usr/share/elanpad/config.yaml" := by
  rw [base, h]
  decide +kernel

/-- **Without a home only two candidates are left**: the file of the system and the fallback. -/
theorem configPaths_of_home?_eq_none (h : e.home? = none) :
    configPaths f e = [systemFile, "/usr/share/elanpad/config.yaml"] := by
  have hown : e.userConfig? = none ∧ e.userData? = none := by
    simp [Environment.userConfig?, Environment.userData?, h]
  have hshared : e.systemConfig = [] ∧ e.systemData = [] := by
    simp [Environment.systemConfig, Environment.systemData, h]
  have hbase : base? f e = none := by rw [base?, hshared.2, List.map_nil, List.find?_nil]
  rw [configPaths_eq, join_base_of_eq_none hbase, listed, hown.1, hown.2, hshared.1, hshared.2]
  rfl

end Search

namespace Config

open Search (configPaths configFile? listed base baseNotes fileName programDirectory
  find?_eq_of_start)

variable {f : Files} {e : Environment}

/-- The record of a candidate that is looked at. -/
def checking (path : String) : Log.Record :=
  Log.trace ("Checking for config file: " ++ Text.Quoted.encode path)

/-- The first file is the one that is loaded. -/
theorem load_of_find? {path : String} (h : (configPaths f e).find? f.isFile = some path) :
    load f e none = Entry.options (f.look path) := by
  rw [← fromFile_eq]
  simp only [load, configFile?, h]

/-- **Access is only refused by the first file**, and then nothing else is tried. -/
theorem load_eq_access_iff {cause : AccessError} :
    load f e none = .error (.access cause) ↔ ∃ before path after,
      configPaths f e = before ++ path :: after ∧ (∀ p ∈ before, f.isFile p = false) ∧
        f.find path = .closed .file cause := by
  constructor
  · intro h
    cases hfind : (configPaths f e).find? f.isFile with
    | none =>
      simp only [load, configFile?, hfind] at h
      cases h
    | some path =>
      obtain ⟨hfile, before, after, hsplit, hbefore⟩ := List.find?_eq_some_iff_append.mp hfind
      refine ⟨before, path, after, hsplit, fun p hp => by simpa using hbefore p hp, ?_⟩
      rw [load_of_find? hfind, Files.look] at h
      -- a file that was opened has been read
      rcases Search.isFile_iff.mp hfile with ⟨content, hopen⟩ | ⟨refused, hclosed⟩
      · rw [hopen] at h
        exact absurd h (Entry.options_ok_ne_access _ cause)
      · rw [hclosed] at h ⊢
        cases h
        rfl
  · rintro ⟨before, path, after, hsplit, hbefore, hclosed⟩
    have hfile : f.isFile path = true := Search.isFile_iff.mpr (.inr ⟨cause, hclosed⟩)
    have hstart : before ++ [path] <+: configPaths f e := ⟨after, by simp [hsplit]⟩
    rw [load_of_find? (find?_eq_of_start hstart hbefore hfile), Files.look, hclosed]
    rfl

/-- The record that there is no file. -/
def usingDefaults : Log.Record := Log.debug "No config file found. Using defaults."

/-- The record of a file that is loaded is not the one that there is no file. -/
theorem loading_ne_usingDefaults (path : String) : loading path ≠ usingDefaults := by
  intro h
  have hhead := congrArg (fun record => record.text.toList.head?) h
  simp [loading, usingDefaults, Log.debug] at hhead

/-- The search itself does not say what comes of it. -/
theorem usingDefaults_not_mem_configFileNotes :
    usingDefaults ∉ Search.configFileNotes f e := by
  intro h
  rcases List.mem_append.mp h with hbase | htried
  · unfold baseNotes at hbase
    split at hbase
    · exact absurd (List.mem_singleton.mp hbase) (by decide)
    · split at hbase
      · cases hbase
      · exact absurd (List.mem_singleton.mp hbase) (by decide)
  · obtain ⟨path, -, hpath⟩ := List.mem_map.mp htried
    have hlevel := congrArg Log.Record.level hpath
    cases hlevel

/-- **There is no file exactly if the log says so.** -/
theorem usingDefaults_mem_loadNotes_iff :
    usingDefaults ∈ loadNotes f e none ↔ ∀ path ∈ configPaths f e, f.isFile path = false := by
  have hfind : configFile? f e = none ↔ ∀ path ∈ configPaths f e, f.isFile path = false := by
    simp [configFile?]
  rw [← hfind, loadNotes, List.mem_append, or_iff_right usingDefaults_not_mem_configFileNotes,
    List.mem_singleton]
  cases configFile? f e with
  | none => simp [usingDefaults]
  | some path => simpa using (loading_ne_usingDefaults path).symm

/-- **Nothing but the candidates up to the first file counts.** -/
theorem load_of_start {f' : Files} {e' : Environment} {before : List String} {path : String}
    (hbefore : ∀ p ∈ before, f.isFile p = false) (hfile : f.isFile path = true)
    (hstart : before ++ [path] <+: configPaths f' e')
    (hsame : ∀ p ∈ before ++ [path], f'.find p = f.find p) :
    load f' e' none = Entry.options (f.look path) := by
  have hfiles (p : String) (hp : p ∈ before ++ [path]) : f'.isFile p = f.isFile p := by
    unfold Files.isFile
    rw [hsame p hp]
  have hbefore' (p : String) (hp : p ∈ before) : f'.isFile p = false :=
    (hfiles p (List.mem_append_left _ hp)).trans (hbefore p hp)
  have hpath : path ∈ before ++ [path] := by simp
  have hfind := find?_eq_of_start hstart hbefore' ((hfiles path hpath).trans hfile)
  rw [load_of_find? hfind, Files.look, hsame path hpath, Files.look]

/--
**What is loaded, and what decides it.** The candidates are the file of the system, what exists of
the file in the directories for options and for shared data, and the file in the base directory.

* If none of them is a file, the options are the built-in ones, and only then the log says so.
* Otherwise the first file decides, for better or worse: the candidates in front of it are passed
  over, and whatever else there is behind it, the outcome is the same. If it can be opened, its text
  says what the options are; if it cannot, that is the error.
* Access is only refused by a file that is first and cannot be opened.
* The base directory only decides if no directory for shared data has anything for the program.
* For a user without a home the candidates are the file of the system and the fallback.
* A given path is read or not, whatever the environment and all other paths.
-/
theorem search_law (f : Files) (e : Environment) :
    let candidates := listed f e ++ [Path.join (base f e) fileName]
    configPaths f e = candidates ∧
      ((∀ path ∈ candidates, f.isFile path = false) → load f e none = .ok {} ∧
        loadNotes f e none = baseNotes f e ++ candidates.map checking ++ [usingDefaults]) ∧
      (usingDefaults ∈ loadNotes f e none ↔ ∀ path ∈ candidates, f.isFile path = false) ∧
      ((∃ path ∈ candidates, f.isFile path = true) →
        ∃ before path after, candidates = before ++ path :: after ∧
          (∀ p ∈ before, f.isFile p = false) ∧ f.isFile path = true ∧
          ((∃ content, f.find path = .ok (.file content) ∧ load f e none =
              (match (String.fromUTF8? content).bind parse? with
                | some c => .ok c
                | none => .error .malformed)) ∨
            ∃ cause, f.find path = .closed .file cause ∧
              load f e none = .error (.access cause)) ∧
          loadNotes f e none =
            baseNotes f e ++ (before ++ [path]).map checking ++ [loading path] ∧
          ∀ (f' : Files) (e' : Environment), before ++ [path] <+: configPaths f' e' →
            (∀ p ∈ before ++ [path], f'.find p = f.find p) →
            load f' e' none = load f e none) ∧
      (∀ cause, load f e none = .error (.access cause) ↔ ∃ before path after,
        candidates = before ++ path :: after ∧ (∀ p ∈ before, f.isFile p = false) ∧
          f.find path = .closed .file cause) ∧
      ((∀ path ∈ listed f e, f.isFile path = false) →
        f.isFile (Path.join (base f e) fileName) = true →
          (∀ dir ∈ e.systemData, f.exists? (programDirectory dir) = false) ∧
            Path.join (base f e) fileName = "/usr/share/elanpad/config.yaml") ∧
      (e.home? = none →
        candidates = ["/etc/elanpad/config.yaml", "/usr/share/elanpad/config.yaml"]) ∧
      ∀ path, load f e (some path) = Entry.options (f.look path) ∧
        loadNotes f e (some path) = [loading path] := by
  intro candidates
  have hpaths : configPaths f e = candidates := Search.configPaths_eq f e
  refine ⟨hpaths, fun hnone => ?_, usingDefaults_mem_loadNotes_iff, fun hsome => ?_,
    fun cause => load_eq_access_iff, fun hlisted hlast => ?_,
    Search.configPaths_of_home?_eq_none, fun path => ?_⟩
  · have hfind : configFile? f e = none := List.find?_eq_none.mpr fun p hp => by
      simp [hnone p hp]
    simp only [load, loadNotes, Search.configFileNotes, hfind, hpaths,
      Search.triedPaths_of_forall hnone]
    exact ⟨trivial, rfl⟩
  · obtain ⟨before, path, after, hsplit, hbefore, hfile⟩ := Search.exists_first_file hsome
    have hstart : before ++ [path] <+: candidates := ⟨after, by simp [hsplit]⟩
    have hfind : configFile? f e = some path := find?_eq_of_start hstart hbefore hfile
    have hload : load f e none = Entry.options (f.find path).opened := load_of_find? hfind
    refine ⟨before, path, after, hsplit, hbefore, hfile, ?_, ?_, ?_⟩
    · rcases Search.isFile_iff.mp hfile with ⟨content, hopen⟩ | ⟨cause, hclosed⟩
      · refine .inl ⟨content, hopen, ?_⟩
        rw [hload, hopen]
        rfl
      · refine .inr ⟨cause, hclosed, ?_⟩
        rw [hload, hclosed]
        rfl
    · simp only [loadNotes, Search.configFileNotes, hfind, hpaths, hsplit,
        Search.triedPaths_append hbefore hfile]
      rfl
    · intro f' e' hstart' hsame
      rw [hload, load_of_start hbefore hfile hstart' hsame]
      rfl
  · have hbase := Search.base?_eq_none_of_isFile hlisted hlast
    exact ⟨Search.not_exists_of_base?_eq_none hbase, Search.join_base_of_eq_none hbase⟩
  · exact ⟨fromFile_eq f path, rfl⟩

end Config

end Touchpad
