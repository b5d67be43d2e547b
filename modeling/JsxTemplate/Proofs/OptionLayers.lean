import Mathlib.Data.List.TakeWhile
import JsxTemplate.Command.Run

/-
  Where the options of a job come from: the command line over the configuration, the configuration
  over what is built in. Repeated replacements on the command line are set one after the other, so
  that the last one for a name holds (`lookup_insertAll`). Main statement: which name an attribute
  gets under the options of a job, and whether blanks are kept (`options_layered`).
-/

namespace JsxTemplate

/-! ## Replacements on the command line -/

/-- A replacement is cut at its first equals sign, and has text on both sides of it. -/
theorem replacement?_eq_some_iff {value name replacement : Text} :
    replacement? value = some (name, replacement) ↔
      name ≠ [] ∧ replacement ≠ [] ∧ '=' ∉ name ∧ name ++ ['='] ++ replacement = value := by
  constructor
  · intro h
    have hvalue : value.takeWhile (· != '=') ++ value.dropWhile (· != '=') = value :=
      List.takeWhile_append_dropWhile
    have hname : '=' ∉ value.takeWhile (· != '=') := by
      intro hmem
      simpa using List.mem_takeWhile_imp hmem
    unfold replacement? at h
    split at h
    next c name d replacement htaken hleft =>
      cases h
      rw [htaken] at hvalue hname
      rw [hleft] at hvalue
      exact ⟨List.cons_ne_nil _ _, List.cons_ne_nil _ _, hname, by simpa using hvalue⟩
    next => cases h
  · rintro ⟨hname, hreplacement, hmem, rfl⟩
    obtain ⟨c, name, rfl⟩ := List.exists_cons_of_ne_nil hname
    obtain ⟨d, replacement, rfl⟩ := List.exists_cons_of_ne_nil hreplacement
    have hall : ∀ e ∈ c :: name, (e != '=') = true := by
      rintro e he
      simp only [bne_iff_ne]
      rintro rfl
      exact hmem he
    have htaken : (c :: name ++ ['='] ++ d :: replacement).takeWhile (· != '=') = c :: name := by
      rw [List.append_assoc, List.takeWhile_append_of_pos hall]
      simp
    have hleft : (c :: name ++ ['='] ++ d :: replacement).dropWhile (· != '=') =
        '=' :: d :: replacement := by
      rw [List.append_assoc, List.dropWhile_append_of_pos hall]
      simp
    rw [replacement?, htaken, hleft]
    rfl

/-- What the last of the entries for a name says. -/
def newest? (entries : List (Text × Text)) (name : Text) : Option Text :=
  (entries.filter (·.1 == name)).getLast?.map Prod.snd

theorem newest?_cons (entry : Text × Text) (entries : List (Text × Text)) (name : Text) :
    newest? (entry :: entries) name =
      (newest? entries name).or (if entry.1 = name then some entry.2 else none) := by
  unfold newest?
  by_cases h : entry.1 = name
  · rw [List.filter_cons_of_pos (by simpa using h), List.getLast?_cons, if_pos h]
    cases (entries.filter (·.1 == name)).getLast? <;> rfl
  · rw [List.filter_cons_of_neg (by simpa using h), if_neg h, Option.or_none]

theorem mem_of_newest? {entries : List (Text × Text)} {name replacement : Text}
    (h : newest? entries name = some replacement) : (name, replacement) ∈ entries := by
  obtain ⟨entry, hlast, rfl⟩ := Option.map_eq_some_iff.1 h
  obtain ⟨hmem, hname⟩ := List.mem_filter.1 (List.mem_of_getLast? hlast)
  rw [← beq_iff_eq.1 hname]
  exact hmem

/-- Of several entries for a name the last one is found, and else what was there before. -/
theorem Table.lookup_insertAll (table : Table) (entries : List (Text × Text)) (name : Text) :
    (table.insertAll entries).lookup name = (newest? entries name).or (table.lookup name) := by
  induction entries generalizing table with
  | nil => rfl
  | cons entry entries ih =>
    have hstep : table.insertAll (entry :: entries) =
        (table.insert entry.1 entry.2).insertAll entries := rfl
    rw [hstep, ih, lookup_insert, newest?_cons, Option.or_assoc]
    by_cases h : entry.1 = name
    · rw [if_pos h, if_pos h.symm, Option.some_or]
    · rw [if_neg h, if_neg (Ne.symm h), Option.none_or]

/-! ## Configurations -/

/-- What the configuration of a job asks for: what its text says, or nothing if the job names
none. -/
inductive Job.ConfiguredBy (job : Job) (decode : Decoder) (inputs : Inputs) : Config → Prop where
  | nothing (hnone : job.settings.config = none) : job.ConfiguredBy decode inputs .empty
  | file {name text : Text} {config : Config} (hname : job.settings.config = some name)
      (hread : inputs.config = some (.ok text)) (hdecode : decode text = .ok config) :
      job.ConfiguredBy decode inputs config

theorem Job.ConfiguredBy.overrides_eq {job : Job} {decode : Decoder} {inputs : Inputs}
    {config : Config} (h : job.ConfiguredBy decode inputs config) :
    job.overrides decode inputs = .ok (job.settings.overrides config) := by
  unfold Job.overrides
  cases h with
  | nothing hnone => rw [hnone]
  | file hname hread hdecode =>
    rw [hname, hread]
    dsimp only
    rw [hdecode]

/-! ## The options of a job -/

section Settings

variable {settings : Settings} {config : Config}

/-- The table that holds in the end is the configured one with all replacements set in it, if there
are any or not. -/
theorem Settings.replacements_merge (settings : Settings) (config : Config) :
    (Options.merge (settings.overrides config)).replacements =
      Table.insertAll (config.replacements.getD []) settings.replacements := by
  unfold Options.merge Settings.overrides
  dsimp only
  split
  next hempty =>
    rw [List.isEmpty_iff.1 hempty]
    rfl
  next => rfl

theorem Settings.preserveWhitespace_merge (settings : Settings) (config : Config) :
    (Options.merge (settings.overrides config)).preserveWhitespace = true ↔
      settings.preserveWhitespace = true ∨ config.preserveWhitespace = some true := by
  unfold Options.merge Settings.overrides
  dsimp only
  cases settings.preserveWhitespace with
  | true => simp
  | false => cases config.preserveWhitespace <;> simp [Options.default]

theorem Options.resolve_of_table {options : Options} (h : options.rename = none) (name : Text) :
    options.resolve name =
      (((options.replacements.lookup name).filter (!·.isEmpty)).or
        (builtinReplacement? name)).getD name := by
  rw [resolve, h]
  dsimp only
  cases (options.replacements.lookup name).filter (!·.isEmpty) <;> rfl

/-- Entries that are not empty come before the configured one; that one has to be non-empty to come
before what is built in. -/
theorem Settings.resolve_merge
    (hentries : ∀ entry ∈ settings.replacements, entry.2 ≠ []) (name : Text) :
    (Options.merge (settings.overrides config)).resolve name =
      (((newest? settings.replacements name).or
        ((config.replacements.bind (List.lookup name)).filter (!·.isEmpty))).or
          (builtinReplacement? name)).getD name := by
  have hnone : (Options.merge (settings.overrides config)).rename = none := rfl
  have htable : (config.replacements.getD []).lookup name =
      config.replacements.bind (List.lookup name) := by
    cases config.replacements <;> rfl
  rw [Options.resolve_of_table hnone, replacements_merge, Table.lookup_insertAll, htable]
  cases hlast : newest? settings.replacements name with
  | none => rw [Option.none_or, Option.none_or]
  | some replacement =>
    have hne : replacement ≠ [] := hentries _ (mem_of_newest? hlast)
    rw [Option.some_or, Option.filter_some_pos (by simpa using hne), Option.some_or, Option.some_or,
      Option.some_or]

end Settings

/-- The options of a job, for any decoder, any configuration and any replacements that the command
line accepts.
An attribute gets the name that the last replacement for it gives; else the one that the
configuration gives, if that is not empty; else the built-in one; else it keeps its own. Blanks are
kept if the command line or the configuration says so. A replacement is accepted exactly if there is
text on both sides of its first equals sign, which is where it is cut. -/
theorem options_layered {job : Job} {decode : Decoder} {inputs : Inputs} {config : Config}
    (hconfig : job.ConfiguredBy decode inputs config) {values : List Text}
    (haccepted : values.map replacement? = job.settings.replacements.map some) :
    ∃ overrides, job.overrides decode inputs = .ok overrides ∧
      (∀ name, (Options.merge overrides).resolve name =
        (((newest? job.settings.replacements name).or
          ((config.replacements.bind (List.lookup name)).filter (!·.isEmpty))).or
            (builtinReplacement? name)).getD name) ∧
      ((Options.merge overrides).preserveWhitespace = true ↔
        job.settings.preserveWhitespace = true ∨ config.preserveWhitespace = some true) ∧
      ∀ value name replacement, replacement? value = some (name, replacement) ↔
        name ≠ [] ∧ replacement ≠ [] ∧ '=' ∉ name ∧ name ++ ['='] ++ replacement = value := by
  have hentries : ∀ entry ∈ job.settings.replacements, entry.2 ≠ [] := by
    intro entry hentry
    have hmem : some entry ∈ values.map replacement? := by
      rw [haccepted]
      exact List.mem_map_of_mem hentry
    obtain ⟨value, -, hvalue⟩ := List.mem_map.1 hmem
    exact (replacement?_eq_some_iff.1 hvalue).2.1
  exact ⟨_, hconfig.overrides_eq, Settings.resolve_merge hentries,
    Settings.preserveWhitespace_merge _ _, fun _ _ _ => replacement?_eq_some_iff⟩

/-- Two replacements for one name, the second with an equals sign of its own, over a configuration
with an entry for the same name, an empty one and one for a name of its own. -/
theorem options_layered_repeated :
    let text : Text :=
      "\x7b\"customAttributeReplacements\": \x7b\"id\": \"x\", \"className\": \"\"".toList ++
        ", \"tabIndex\": \"tabindex\"\x7d, \"preserveWhitespace\": true\x7d".toList
    let values : List Text := ["id=a".toList, "id=b=c".toList]
    let settings : Settings := ⟨some "options".toList, false,
      [("id".toList, "a".toList), ("id".toList, "b=c".toList)]⟩
    let job : Job := .check "page".toList settings
    let inputs : Inputs := ⟨some (.ok text), .error .missing⟩
    ∃ config, job.ConfiguredBy .builtin inputs config ∧
      values.map replacement? = settings.replacements.map some ∧
      ∃ overrides, job.overrides .builtin inputs = .ok overrides ∧
        (Options.merge overrides).resolve "id".toList = "b=c".toList ∧
        (Options.merge overrides).resolve "tabIndex".toList = "tabindex".toList ∧
        (Options.merge overrides).resolve "className".toList = "class".toList ∧
        (Options.merge overrides).resolve "href".toList = "href".toList ∧
        (Options.merge overrides).preserveWhitespace = true := by
  intro text values settings job inputs
  have hdecode : Decoder.builtin text = .ok ⟨some true, some [("id".toList, "x".toList),
      ("className".toList, []), ("tabIndex".toList, "tabindex".toList)]⟩ := by
    decide +kernel
  have hconfig : job.ConfiguredBy .builtin inputs _ := .file rfl rfl hdecode
  have haccepted : values.map replacement? = settings.replacements.map some := by decide +kernel
  obtain ⟨overrides, hoverrides, hnames, hblanks, -⟩ := options_layered hconfig haccepted
  refine ⟨_, hconfig, haccepted, overrides, hoverrides, ?_, ?_, ?_, ?_, hblanks.2 (.inr rfl)⟩
  all_goals
    rw [hnames]
    decide +kernel

end JsxTemplate
