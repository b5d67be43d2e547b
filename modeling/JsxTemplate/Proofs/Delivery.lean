import JsxTemplate.Command.Run
import JsxTemplate.Proofs.Steps

/-
  What a run of the command line leaves behind, with any tools (`Toolkit`). A job has an output if
  its configuration, its source and the compilation allow it (`Compiles`), else a message that says
  what went wrong first (`Fails`). Main statement: without an output nothing is printed or written
  and the run exits with 1; with one, the output goes to standard output or into the one file asked
  for, as a whole, and a check ends well exactly if a build does (`run_leaves`).
-/

namespace JsxTemplate

/-! ## Writing a file -/

theorem pathNames_ne_nil (name : Text) : pathNames name ≠ [] := by
  cases name with
  | nil => exact List.cons_ne_nil _ _
  | cons c rest =>
    unfold pathNames
    split
    · exact List.cons_ne_nil _ _
    · split <;> exact List.cons_ne_nil _ _

/-- The last name of a path is empty only behind a slash. -/
theorem getLast?_pathNames {name : Text} (h : (pathNames name).getLast? = some []) :
    name = [] ∨ name.getLast? = some '/' := by
  induction name with
  | nil => exact .inl rfl
  | cons c rest ih =>
    refine .inr ?_
    obtain ⟨first, names, hnames⟩ := List.exists_cons_of_ne_nil (pathNames_ne_nil rest)
    rw [pathNames, hnames] at h
    rw [hnames] at ih
    dsimp only at h
    split at h
    next hslash =>
      obtain rfl : c = '/' := by simpa using hslash
      rw [List.getLast?_cons_cons] at h
      rcases ih h with rfl | hlast
      · rfl
      · rw [List.getLast?_cons, hlast]
        rfl
    next =>
      cases names with
      | nil => simp at h
      | cons second names =>
        rw [List.getLast?_cons_cons] at h ih
        rcases ih h with rfl | hlast
        · cases hnames
        · rw [List.getLast?_cons, hlast]
          rfl

namespace FileTree

theorem lookup_overwrite (tree : FileTree) (path other : Path) (entry : Entry) :
    (tree.overwrite path entry).entries.lookup other =
      if other = path then some entry else tree.entries.lookup other := by
  unfold overwrite
  dsimp only
  rw [List.lookup_cons]
  by_cases h : other = path
  · simp [h]
  · rw [if_neg h, beq_eq_false_iff_ne.2 h]
    dsimp only
    induction tree.entries with
    | nil => rfl
    | cons first entries ih =>
      obtain ⟨key, old⟩ := first
      by_cases hkey : key = path
      · subst hkey
        simp [List.lookup_cons, beq_eq_false_iff_ne.2 h, ih]
      · simp [List.lookup_cons, hkey, ih]

/-- All that a path leads through is there. -/
def Leads (tree : FileTree) (path : Path) : Prop :=
  ∀ above, above <+: path → above ≠ path → (tree.find? above).isSome

theorem find?_eq_or (tree : FileTree) (path : Path) :
    tree.find? path = (tree.entries.lookup path).or
      (if path.isPrefixOf tree.working || tree.entries.any fun entry => path.isPrefixOf entry.1 then
        some .directory else none) := by
  unfold find?
  cases tree.entries.lookup path <;> rfl

/-- A new entry at a path changes nothing else. -/
theorem find?_overwrite {tree : FileTree} {path : Path} (hleads : tree.Leads path) (entry : Entry)
    (other : Path) :
    (tree.overwrite path entry).find? other =
      if other = path then some entry else tree.find? other := by
  rw [find?_eq_or, lookup_overwrite]
  by_cases h : other = path
  · rw [if_pos h, if_pos h, Option.some_or]
  rw [if_neg h, if_neg h, find?_eq_or]
  unfold overwrite
  dsimp only
  by_cases habove : other <+: path
  · -- The path lies below `other`, which was there before: listed, or as a directory.
    have hold := hleads other habove h
    rw [find?_eq_or] at hold
    have hbelow : other.isPrefixOf path = true := List.isPrefixOf_iff_prefix.2 habove
    rw [List.any_cons, hbelow, Bool.true_or, Bool.or_true, if_pos rfl]
    cases hlookup : tree.entries.lookup other with
    | some found => rfl
    | none =>
      rw [hlookup, Option.none_or, Option.isSome_ite] at hold
      rw [if_pos hold]
  · have hany : ((path, entry) :: tree.entries.filter (·.1 != path)).any
        (fun entry => other.isPrefixOf entry.1) =
          tree.entries.any (fun entry => other.isPrefixOf entry.1) := by
      rw [Bool.eq_iff_iff]
      simp only [List.any_cons, Bool.or_eq_true, List.isPrefixOf_iff_prefix, habove, false_or,
        List.any_eq_true, List.mem_filter, bne_iff_ne]
      constructor
      · rintro ⟨found, ⟨hmem, -⟩, hkey⟩
        exact ⟨found, hmem, hkey⟩
      · rintro ⟨found, hmem, hkey⟩
        exact ⟨found, ⟨hmem, fun heq => habove (heq ▸ hkey)⟩, hkey⟩
    rw [hany]

/-- Names are looked up from a place that is led to. -/
theorem leads_base (tree : FileTree) (name : Text) : tree.Leads (tree.base name) := by
  intro above habove hne
  have hworking : above.isPrefixOf tree.working = true := by
    rw [List.isPrefixOf_iff_prefix]
    unfold base at habove
    split at habove
    · exact habove.trans List.nil_prefix
    · exact habove
  rw [find?_eq_or, hworking, Bool.true_or, if_pos rfl]
  cases tree.entries.lookup above <;> rfl

/-- One name further from an entry that is led to. -/
theorem Leads.concat {tree : FileTree} {path : Path} (h : tree.Leads path)
    (hfind : (tree.find? path).isSome) (name : Text) : tree.Leads (path ++ [name]) := by
  intro above habove hne
  rcases List.prefix_concat_iff.1 habove with heq | habove
  · exact absurd heq hne
  · by_cases heq : above = path
    · rw [heq]
      exact hfind
    · exact h above habove heq

theorem Leads.dropLast {tree : FileTree} {path : Path} (h : tree.Leads path) :
    tree.Leads path.dropLast := by
  intro above habove hne
  refine h above (habove.trans path.dropLast_prefix) ?_
  rintro rfl
  exact hne (habove.eq_of_length_le (by rw [List.length_dropLast]; omega))

theorem Leads.follow {tree : FileTree} {names : List Text} {path final : Path}
    (h : tree.Leads path) (hfollow : tree.follow path names = .ok final) : tree.Leads final := by
  induction names generalizing path with
  | nil =>
    cases hfollow
    exact h
  | cons name names ih =>
    unfold FileTree.follow at hfollow
    split at hfollow
    · cases hfollow
    next hdirectory =>
      split at hfollow
      · exact ih h hfollow
      split at hfollow
      · exact ih h.dropLast hfollow
      · exact ih (h.concat (by rw [hdirectory]; rfl) name) hfollow
    · cases hfollow

/-- Where no directory is lost, names lead to where they led. -/
theorem follow_of_directories {tree later : FileTree}
    (h : ∀ path, tree.find? path = some .directory → later.find? path = some .directory)
    {names : List Text} {path final : Path} (hfollow : tree.follow path names = .ok final) :
    later.follow path names = .ok final := by
  induction names generalizing path with
  | nil => exact hfollow
  | cons name names ih =>
    unfold follow at hfollow ⊢
    split at hfollow
    · cases hfollow
    next hdirectory =>
      rw [h path hdirectory]
      dsimp only
      split at hfollow
      next hstay =>
        rw [if_pos hstay]
        exact ih hfollow
      next hstay =>
        rw [if_neg hstay]
        split at hfollow
        next hup =>
          rw [if_pos hup]
          exact ih hfollow
        next hup =>
          rw [if_neg hup]
          exact ih hfollow
    · cases hfollow

theorem resolve_eq_ok_iff {tree : FileTree} {name : Text} {path : Path} :
    tree.resolve name = .ok path ↔
      name ≠ [] ∧ tree.follow (tree.base name) (pathNames name) = .ok path := by
  unfold resolve
  cases name with
  | nil => simp
  | cons c rest => simp

theorem write_eq_ok {tree later : FileTree} {name text : Text}
    (h : tree.write name text = .ok later) :
    ∃ path, tree.resolve name = .ok path ∧ tree.find? path ≠ some .directory ∧
      later = tree.overwrite path (.text text) := by
  unfold write at h
  split at h
  · cases h
  next hname =>
    obtain ⟨path, hfollow, h⟩ := bind_eq_ok h
    split at h
    · cases h
    next hfile =>
      cases h
      simp only [Bool.or_eq_true, beq_iff_eq, not_or] at hfile
      have hlast : ∀ last ∈ (pathNames name).reverse.head?, ¬ (last.isEmpty = true) := by
        intro last hmem hempty
        rw [List.head?_reverse, List.isEmpty_iff.1 hempty] at hmem
        rcases getLast?_pathNames hmem with rfl | hslash
        · exact hname rfl
        · exact hfile.1 hslash
      have hnames : ((pathNames name).reverse.dropWhile (·.isEmpty)).reverse = pathNames name := by
        cases hreverse : (pathNames name).reverse with
        | nil => rw [← List.reverse_reverse (pathNames name), hreverse]; rfl
        | cons last others =>
          rw [List.dropWhile_cons_of_neg (hlast last (by rw [hreverse]; rfl)), ← hreverse,
            List.reverse_reverse]
      rw [hnames] at hfollow
      have hne : name ≠ [] := fun hempty => hname (List.isEmpty_iff.2 hempty)
      exact ⟨path, resolve_eq_ok_iff.2 ⟨hne, hfollow⟩, hfile.2, rfl⟩

theorem read_of_find? {tree : FileTree} {name text : Text} {path : Path}
    (hresolve : tree.resolve name = .ok path) (hfind : tree.find? path = some (.text text)) :
    tree.read name = .ok text := by
  rw [FileTree.read, hresolve]
  simp only [bind, Except.bind, hfind]
  rfl

/-- In the later tree the file called `name` holds `text`; everything else is as it was. -/
structure Overwritten (tree later : FileTree) (name text : Text) : Prop where
  read : later.read name = .ok text
  unchanged : ∃ path, tree.resolve name = .ok path ∧ later.find? path = some (.text text) ∧
    ∀ other, other ≠ path → later.find? other = tree.find? other
  working : later.working = tree.working

theorem overwritten_of_write {tree later : FileTree} {name text : Text}
    (h : tree.write name text = .ok later) : tree.Overwritten later name text := by
  obtain ⟨path, hresolve, hfile, rfl⟩ := write_eq_ok h
  obtain ⟨hname, hfollow⟩ := resolve_eq_ok_iff.1 hresolve
  have hfind := find?_overwrite ((tree.leads_base name).follow hfollow) (.text text)
  have hdirectories : ∀ other, tree.find? other = some .directory →
      (tree.overwrite path (.text text)).find? other = some .directory := by
    intro other hother
    rw [hfind, if_neg]
    · exact hother
    · rintro rfl
      exact hfile hother
  have hpath := (hfind path).trans (if_pos rfl)
  have hlater : (tree.overwrite path (.text text)).resolve name = .ok path :=
    resolve_eq_ok_iff.2 ⟨hname, follow_of_directories hdirectories hfollow⟩
  exact ⟨read_of_find? hlater hpath,
    ⟨path, hresolve, hpath, fun other hne => (hfind other).trans (if_neg hne)⟩, rfl⟩

end FileTree

/-! ## Outputs and messages -/

/-- The overrides that hold for settings, where their configuration can be read and decoded. -/
inductive Configured (decode : Decoder) (files : FileTree) (settings : Settings) :
    Overrides → Prop where
  | plain (hnone : settings.config = none) :
      Configured decode files settings (settings.overrides .empty)
  | file {name text : Text} {config : Config} (hname : settings.config = some name)
      (hread : files.read name = .ok text) (hdecode : decode text = .ok config) :
      Configured decode files settings (settings.overrides config)

/-- The output of a file under settings. -/
def Compiles (decode : Decoder) (files : FileTree) (path : Text) (settings : Settings)
    (output : Text) : Prop :=
  ∃ overrides source, Configured decode files settings overrides ∧ files.read path = .ok source ∧
    transformSource overrides source = .ok output

/-- The message that says why a file has no output under settings. -/
inductive Fails (decode : Decoder) (files : FileTree) (path : Text) (settings : Settings) :
    Text → Prop where
  | unreadConfig {name : Text} {fault : FileFault} (hname : settings.config = some name)
      (hread : files.read name = .error fault) :
      Fails decode files path settings (readingFault name fault)
  | refusedConfig {name text : Text} {reason : Option Text} (hname : settings.config = some name)
      (hread : files.read name = .ok text) (hdecode : decode text = .error reason) :
      Fails decode files path settings (invalidConfig name reason)
  | unreadSource {overrides : Overrides} {fault : FileFault}
      (hconfig : Configured decode files settings overrides)
      (hread : files.read path = .error fault) :
      Fails decode files path settings (readingFault path fault)
  | faulty {overrides : Overrides} {source : Text} {error : TransformError}
      (hconfig : Configured decode files settings overrides) (hread : files.read path = .ok source)
      (htransform : transformSource overrides source = .error error) :
      Fails decode files path settings (path ++ ": ".toList ++ error.message)

theorem compiles_or_fails (decode : Decoder) (files : FileTree) (path : Text)
    (settings : Settings) :
    (∃ output, Compiles decode files path settings output) ∨
      ∃ message, Fails decode files path settings message := by
  have hsource : ∀ {overrides}, Configured decode files settings overrides →
      (∃ output, Compiles decode files path settings output) ∨
        ∃ message, Fails decode files path settings message := by
    intro overrides hconfig
    cases hread : files.read path with
    | error fault => exact .inr ⟨_, .unreadSource hconfig hread⟩
    | ok source =>
      cases htransform : transformSource overrides source with
      | error error => exact .inr ⟨_, .faulty hconfig hread htransform⟩
      | ok output => exact .inl ⟨output, overrides, source, hconfig, hread, htransform⟩
  cases hname : settings.config with
  | none => exact hsource (.plain hname)
  | some name =>
    cases hread : files.read name with
    | error fault => exact .inr ⟨_, .unreadConfig hname hread⟩
    | ok text =>
      cases hdecode : decode text with
      | error reason => exact .inr ⟨_, .refusedConfig hname hread hdecode⟩
      | ok config => exact hsource (.file hname hread hdecode)

section Compile

variable {decode : Decoder} {files : FileTree} {job : Job} {overrides : Overrides}
  {output message : Text}

theorem Configured.overrides_eq (h : Configured decode files job.settings overrides) :
    job.overrides decode (job.inputs files) = .ok overrides := by
  unfold Job.overrides Job.inputs
  cases h with
  | plain hnone => rw [hnone]
  | file hname hread hdecode =>
    rw [hname, Option.map_some, hread]
    dsimp only
    rw [hdecode]

theorem Configured.compile_result (h : Configured decode files job.settings overrides)
    {source : Text} (hread : files.read job.path = .ok source) :
    (job.compile decode (job.inputs files)).result =
      (transformSource overrides source).mapError fun error =>
        job.path ++ ": ".toList ++ error.message := by
  have hsource : (job.inputs files).source = .ok source := hread
  rw [Job.compile, h.overrides_eq]
  dsimp only
  rw [hsource]

theorem Compiles.compile_result (h : Compiles decode files job.path job.settings output) :
    (job.compile decode (job.inputs files)).result = .ok output := by
  obtain ⟨overrides, source, hconfig, hread, htransform⟩ := h
  rw [hconfig.compile_result hread, htransform]
  rfl

theorem Fails.compile_result (h : Fails decode files job.path job.settings message) :
    (job.compile decode (job.inputs files)).result = .error message := by
  cases h with
  | @unreadConfig name fault hname hread =>
    have hoverrides : job.overrides decode (job.inputs files) =
        .error (readingFault name fault) := by
      unfold Job.overrides Job.inputs
      rw [hname, Option.map_some, hread]
    rw [Job.compile, hoverrides]
  | @refusedConfig name text reason hname hread hdecode =>
    have hoverrides : job.overrides decode (job.inputs files) =
        .error (invalidConfig name reason) := by
      unfold Job.overrides Job.inputs
      rw [hname, Option.map_some, hread]
      dsimp only
      rw [hdecode]
    rw [Job.compile, hoverrides]
  | @unreadSource overrides fault hconfig hread =>
    have hsource : (job.inputs files).source = .error fault := hread
    rw [Job.compile, hconfig.overrides_eq]
    dsimp only
    rw [hsource]
  | faulty hconfig hread htransform =>
    rw [hconfig.compile_result hread, htransform]
    rfl

end Compile

/-! ## Runs -/

/-- The run ends so, prints this to standard output, and leaves these files. -/
structure Report.Leaves (report : Report) (exit : Nat) (stdout : Text) (files : FileTree) :
    Prop where
  exit : report.exit = exit
  stdout : report.stdout = stdout
  files : report.files = files

/-- What a run does with an output: a check drops it, and a build prints it or writes it to a
file, if that can be written. -/
def Job.Delivers (files : FileTree) (output : Text) (report : Report) : Job → Prop
  | .check _ _ => report.Leaves 0 [] files
  | .build _ none _ => report.Leaves 0 output files
  | .build _ (some out) _ =>
    (∀ fault, files.write out output = .error fault → report.Leaves 1 [] files) ∧
      ∀ later, files.write out output = .ok later →
        report.Leaves 0 [] later ∧ files.Overwritten later out output

/-- The one run ends well exactly if the other does. If not, both show of the same records what
each of them shows, and then the same message. -/
structure Report.Foretells (shows shows' : Record → Bool) (fails : Text → Prop)
    (report other : Report) : Prop where
  exit_iff : report.exit = 0 ↔ other.exit = 0
  stderr : report.exit ≠ 0 → ∃ records message, fails message ∧
    report.stderr = (logLines shows records).2 ++ textLines message ∧
    other.stderr = (logLines shows' records).2 ++ textLines message

namespace Toolkit

variable {tools : Toolkit} {files : FileTree} {arguments arguments' : List Text}
  {verbosity verbosity' : Nat} {job : Job} {path output message : Text} {settings : Settings}

/-- A run that starts a job, from the job's output or message. -/
theorem run_eq (environment : Option Text) (h : tools.invocation arguments = .ok ⟨verbosity, job⟩)
    {result : Except Text Text}
    (hresult : (job.compile tools.decode (job.inputs files)).result = result) :
    (tools.run environment files arguments).Leaves (job.deliver files result).1.exit
        (job.deliver files result).1.stdout (job.deliver files result).2 ∧
      (tools.run environment files arguments).stderr =
        (logLines (tools.shows environment verbosity)
          (job.compile tools.decode (job.inputs files)).records).2 ++
          ((job.deliver files result).1.message.map textLines).getD [] := by
  subst hresult
  rw [run, h]
  exact ⟨⟨rfl, rfl, rfl⟩, rfl⟩

theorem run_of_fails (hfails : Fails tools.decode files job.path job.settings message)
    (environment : Option Text) (h : tools.invocation arguments = .ok ⟨verbosity, job⟩) :
    (tools.run environment files arguments).Leaves 1 [] files ∧
      (tools.run environment files arguments).stderr =
        (logLines (tools.shows environment verbosity)
          (job.compile tools.decode (job.inputs files)).records).2 ++ textLines message :=
  run_eq environment h hfails.compile_result

theorem run_of_compiles (hcompiles : Compiles tools.decode files job.path job.settings output)
    (environment : Option Text) (h : tools.invocation arguments = .ok ⟨verbosity, job⟩) :
    job.Delivers files output (tools.run environment files arguments) := by
  have hleaves := (run_eq environment h hcompiles.compile_result).1
  cases job with
  | check path settings => exact hleaves
  | build path out settings =>
    cases out with
    | none => exact hleaves
    | some out =>
      unfold Job.deliver Job.target at hleaves
      dsimp only at hleaves
      constructor
      · intro fault hwrite
        rw [hwrite] at hleaves
        exact hleaves
      · intro later hwrite
        rw [hwrite] at hleaves
        exact ⟨hleaves, FileTree.overwritten_of_write hwrite⟩

theorem foretells_of_check (environment environment' : Option Text)
    (h : tools.invocation arguments = .ok ⟨verbosity, .check path settings⟩)
    (h' : tools.invocation arguments' = .ok ⟨verbosity', .build path none settings⟩) :
    Report.Foretells (tools.shows environment verbosity) (tools.shows environment' verbosity')
      (Fails tools.decode files path settings) (tools.run environment files arguments)
      (tools.run environment' files arguments') := by
  rcases compiles_or_fails tools.decode files path settings with
    ⟨output, hcompiles⟩ | ⟨message, hfails⟩
  · have hcheck : (Job.check path settings).Delivers files output
        (tools.run environment files arguments) := run_of_compiles hcompiles environment h
    have hbuild : (Job.build path none settings).Delivers files output
        (tools.run environment' files arguments') := run_of_compiles hcompiles environment' h'
    exact ⟨iff_of_true hcheck.exit hbuild.exit, fun hne => absurd hcheck.exit hne⟩
  · obtain ⟨hleaves, hstderr⟩ := run_of_fails hfails environment h
    obtain ⟨hleaves', hstderr'⟩ := run_of_fails hfails environment' h'
    refine ⟨?_, fun _ => ⟨_, message, hfails, hstderr, hstderr'⟩⟩
    rw [hleaves.exit, hleaves'.exit]

end Toolkit

/-- A run is all or nothing, and a check foretells a build, whatever reads the command line, decodes
the configuration and chooses what is logged. Where the configuration or the source cannot be read
or the source has no output, the run exits with 1, prints nothing to standard output and leaves the
files as they are; else it delivers the output. A check ends like a build that prints its output. -/
theorem run_leaves (tools : Toolkit) {arguments : List Text} {verbosity : Nat} {job : Job}
    (h : tools.invocation arguments = .ok ⟨verbosity, job⟩) (environment : Option Text)
    (files : FileTree) :
    ((∃ output, Compiles tools.decode files job.path job.settings output) ∨
      ∃ message, Fails tools.decode files job.path job.settings message) ∧
    (∀ message, Fails tools.decode files job.path job.settings message →
      (tools.run environment files arguments).Leaves 1 [] files) ∧
    (∀ output, Compiles tools.decode files job.path job.settings output →
      job.Delivers files output (tools.run environment files arguments)) ∧
    ∀ path settings, job = .check path settings → ∀ environment' arguments' verbosity',
      tools.invocation arguments' = .ok ⟨verbosity', .build path none settings⟩ →
      Report.Foretells (tools.shows environment verbosity) (tools.shows environment' verbosity')
        (Fails tools.decode files path settings) (tools.run environment files arguments)
        (tools.run environment' files arguments') := by
  refine ⟨compiles_or_fails tools.decode files job.path job.settings,
    fun message hfails => (Toolkit.run_of_fails hfails environment h).1,
    fun output hcompiles => Toolkit.run_of_compiles hcompiles environment h, ?_⟩
  rintro path settings rfl environment' arguments' verbosity' h'
  exact Toolkit.foretells_of_check environment environment' h h'

/-- A build that writes its output over its own source, which it finds above the working directory
and names from the root. -/
theorem run_leaves_in_place :
    let arguments := ["build".toList, "../src/a.jsx".toList, "-o".toList, "/src/a.jsx".toList]
    let path : Path := ["src".toList, "a.jsx".toList]
    let files : FileTree := ⟨[(path, .text "f(<a>\n</a>)".toList)], ["work".toList]⟩
    let later : FileTree := ⟨[(path, .text "f\x60<a></a>\x60".toList)], ["work".toList]⟩
    Toolkit.builtin.invocation arguments = .ok ⟨0, .build "../src/a.jsx".toList
      (some "/src/a.jsx".toList) ⟨none, false, []⟩⟩ ∧
    (run none files arguments).Leaves 0 [] later ∧
    files.Overwritten later "/src/a.jsx".toList "f\x60<a></a>\x60".toList := by
  intro arguments path files later
  have h : Toolkit.builtin.invocation arguments = .ok ⟨0, .build "../src/a.jsx".toList
      (some "/src/a.jsx".toList) ⟨none, false, []⟩⟩ := by
    decide
  have hoverrides : Configured .builtin files ⟨none, false, []⟩ _ := .plain rfl
  have hcompiles : Compiles .builtin files "../src/a.jsx".toList ⟨none, false, []⟩
      "f\x60<a></a>\x60".toList :=
    ⟨_, "f(<a>\n</a>)".toList, hoverrides, by decide, by decide +kernel⟩
  obtain ⟨-, -, hdelivers, -⟩ := run_leaves .builtin h none files
  exact ⟨h, (hdelivers _ hcompiles).2 _ rfl⟩

end JsxTemplate
