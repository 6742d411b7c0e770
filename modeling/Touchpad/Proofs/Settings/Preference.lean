import Touchpad.Settings.Load

/-!
# Which of several files with options is loaded

The directory of the user comes before those of the system, and these come in the order in which the
environment names them. The search goes through all of them the other way round and stops at the
first file, so that a file is only loaded if there is none in any directory behind its own.

* `Search.find?_existing`: the search in the directories of the user and of the system
* `Config.load_law`: the file of the least preferred directory is loaded
* `Config.load_does_not_prefer`: the most preferred one does not always win
-/

namespace Touchpad

/-- The directories with files for options, the most preferred one first. -/
def Environment.configDirectories (e : Environment) : List String :=
  e.userConfig?.toList ++ e.systemConfig

namespace Search

variable {f : Files} {e : Environment}

/-- A file exists, whether or not it can be opened. -/
theorem exists?_of_isFile {path : String} (h : f.isFile path = true) : f.exists? path = true := by
  unfold Files.exists?
  rw [eq_of_beq h]
  rfl

/-- **The least preferred file is found first.** That a candidate has to exist changes nothing. -/
theorem find?_existing (f : Files) (own : Option String) (shared : List String) :
    (existing f own shared).find? f.isFile =
      ((own.toList ++ shared).reverse.find? (f.isFile ∘ optionsIn)).map optionsIn := by
  have hboth (path : String) :
      decide (f.exists? path = true ∧ f.isFile path = true) = f.isFile path := by
    cases h : f.isFile path with
    | false => simp
    | true => simp [exists?_of_isFile h]
  have horder : (own.toList ++ shared).reverse = shared.reverse ++ own.toList := by
    cases own <;> simp
  unfold existing
  rw [List.find?_filter, horder, ← List.find?_map]
  simp only [hboth]

/-- A file in these directories is found before all others but that of the system. -/
theorem configFile?_of_find? {dir : String} (hs : f.isFile systemFile = false)
    (h : e.configDirectories.reverse.find? (f.isFile ∘ optionsIn) = some dir) :
    configFile? f e = some (optionsIn dir) := by
  have hfound : (existing f e.userConfig? e.systemConfig).find? f.isFile = some (optionsIn dir) :=
    (find?_existing f e.userConfig? e.systemConfig).trans (congrArg (Option.map optionsIn) h)
  unfold configFile? configPaths
  rw [List.find?_cons_of_neg (by simp [hs]), List.append_assoc, List.find?_append, hfound]
  rfl

end Search

namespace Config

open Search (optionsIn systemFile configFile? configFile?_of_find?)

/--
**The file of the least preferred directory is loaded**, if the system has no file of its own and
there is one in any directory for options. All directories behind it in the order of preference are
without a file.
-/
theorem load_law (f : Files) (e : Environment) (hs : f.isFile systemFile = false)
    (hsome : ∃ dir ∈ e.configDirectories, f.isFile (optionsIn dir) = true) :
    ∃ before dir after, e.configDirectories = before ++ dir :: after ∧
      f.isFile (optionsIn dir) = true ∧ (∀ other ∈ after, f.isFile (optionsIn other) = false) ∧
      configFile? f e = some (optionsIn dir) ∧ load f e none = fromFile f (optionsIn dir) := by
  obtain ⟨found, hfound, hfile⟩ := hsome
  cases hfind : e.configDirectories.reverse.find? (f.isFile ∘ optionsIn) with
  | none =>
    have hno := List.find?_eq_none.mp hfind found (List.mem_reverse.mpr hfound)
    exact absurd hfile hno
  | some dir =>
    obtain ⟨hdir, after, before, hsplit, hafter⟩ := List.find?_eq_some_iff_append.mp hfind
    have hpath : configFile? f e = some (optionsIn dir) := configFile?_of_find? hs hfind
    refine ⟨before.reverse, dir, after.reverse, ?_, hdir, ?_, hpath, ?_⟩
    · simpa using congrArg List.reverse hsplit
    · intro other hother
      simpa using hafter other (List.mem_reverse.mp hother)
    · simp only [load, hpath]

/-! ## A user and a system that both have a file -/

/-- The environment of a user who has set no variable but the home directory. -/
def plainEnvironment : Environment := { home := "/home/user" }

/-- A file of this user with a short distance for taps, and one for all users with a long one. -/
def competingFiles : Files where
  find path :=
    if path = "/home/user/.config/elanpad/config.yaml" then
      .ok (.file "tap_distance: 16\n".toUTF8)
    else if path = "/etc/xdg/elanpad/config.yaml" then .ok (.file "tap_distance: 48\n".toUTF8)
    else .error .notFound

/-- A variable that is not set names no directories. -/
theorem absolutePaths_empty : Path.absolutePaths "" = [] := by
  have hsplit : "".splitOn ":" = [""] := by
    -- the recursion is over positions of a text, and does not reduce by itself
    unfold String.splitOn
    rw [String.splitOnAux]
    decide +kernel
  unfold Path.absolutePaths
  rw [hsplit]
  decide +kernel

/-- Without variables a user has one directory below the home, and the system has one. -/
theorem configDirectories_plain :
    plainEnvironment.configDirectories = ["/home/user/.config", "/etc/xdg"] := by
  have hhome : plainEnvironment.home?.isSome = true := by decide +kernel
  have hshared : plainEnvironment.systemConfig = ["/etc/xdg"] := by
    unfold Environment.systemConfig Environment.sharedDirectories
    rw [if_pos hhome]
    simp only [plainEnvironment, Option.getD_none, absolutePaths_empty]
  have hown : plainEnvironment.userConfig? = some "/home/user/.config" := by decide +kernel
  rw [Environment.configDirectories, hshared, hown]
  rfl

theorem not_isFile_system_competing : competingFiles.isFile systemFile = false := by
  decide +kernel

theorem isFile_own_competing : competingFiles.isFile (optionsIn "/home/user/.config") = true := by
  decide +kernel

theorem isFile_shared_competing : competingFiles.isFile (optionsIn "/etc/xdg") = true := by
  decide +kernel

/-- A user has a file, and the one for all users is loaded. -/
theorem load_law_of_two_files :
    competingFiles.isFile systemFile = false ∧
      (∃ dir ∈ plainEnvironment.configDirectories, competingFiles.isFile (optionsIn dir) = true) ∧
      competingFiles.isFile (optionsIn "/home/user/.config") = true ∧
      load competingFiles plainEnvironment none =
        fromFile competingFiles (optionsIn "/etc/xdg") := by
  have hsome : ∃ dir ∈ plainEnvironment.configDirectories,
      competingFiles.isFile (optionsIn dir) = true := by
    refine ⟨"/etc/xdg", ?_, isFile_shared_competing⟩
    rw [configDirectories_plain]
    decide
  obtain ⟨before, dir, after, hsplit, -, hafter, -, hload⟩ :=
    load_law competingFiles plainEnvironment not_isFile_system_competing hsome
  refine ⟨not_isFile_system_competing, hsome, isFile_own_competing, ?_⟩
  rw [configDirectories_plain] at hsplit
  rcases before with _ | ⟨_, before⟩
  · -- the directory of the user would have no file behind it
    obtain ⟨rfl, rfl⟩ := List.cons.inj hsplit
    cases (hafter "/etc/xdg" List.mem_cons_self).symm.trans isFile_shared_competing
  · obtain ⟨rfl, hrest⟩ := List.cons.inj hsplit
    obtain ⟨rfl, h⟩ := List.append_eq_singleton_iff.mp hrest.symm |>.resolve_right (by simp)
    obtain ⟨rfl, rfl⟩ := List.cons.inj h
    exact hload

/-- **The most preferred file is not always loaded.** -/
theorem load_does_not_prefer :
    ¬ ∀ (f : Files) (e : Environment) (dir : String), f.isFile systemFile = false →
      e.configDirectories.find? (f.isFile ∘ optionsIn) = some dir →
        load f e none = fromFile f (optionsIn dir) := by
  intro h
  have hfirst : plainEnvironment.configDirectories.find? (competingFiles.isFile ∘ optionsIn) =
      some "/home/user/.config" := by
    rw [configDirectories_plain]
    exact List.find?_cons_of_pos isFile_own_competing
  have hlast : plainEnvironment.configDirectories.reverse.find?
      (competingFiles.isFile ∘ optionsIn) = some "/etc/xdg" := by
    rw [configDirectories_plain]
    exact List.find?_cons_of_pos isFile_shared_competing
  have hload := h competingFiles plainEnvironment _ not_isFile_system_competing hfirst
  simp only [load, configFile?_of_find? not_isFile_system_competing hlast] at hload
  have hdistance : (fromFile competingFiles (optionsIn "/etc/xdg")).toOption.map tapDistance =
      some 48 := by
    decide +kernel
  rw [hload] at hdistance
  revert hdistance
  decide +kernel

end Config

end Touchpad
