import Mathlib.Data.List.Nodup
import WebAccess.Proofs.SettingsLayers

/-!
# The order of variables

An environment has no order, but its variables are applied one after the other, up to the first
whose value cannot be read. Where each name stands once the order does not matter. The environment
can be applied exactly if all its values can be read, and then each item is what the one variable
says that sets it (`Settings.Loader.applied_eq_ok_iff`); neither depends on the order. Only which
of several unreadable values is blamed does.

Which item a variable sets is told by its name. What follows the beginning is split at each `__`,
and the words must be those of a setting; splitting loses nothing, so no two settings share a name
(`Settings.settingOf?_eq_some_iff_names`). Main statement: `Settings.Loader.load_in_any_order`.
-/

set_option autoImplicit false

namespace WebAccess.Settings

/-! ## The names of variables -/

/-- The words of a text between its double underscores, which are found from the left. -/
def splitWords : List Char → List (List Char)
  | [] => [[]]
  | '_' :: '_' :: cs => [] :: splitWords cs
  | c :: cs => (splitWords cs).modifyHead (c :: ·)

/-- There is always a first word. -/
theorem exists_splitWords_eq_cons (cs : List Char) :
    ∃ word more, splitWords cs = word :: more := by
  fun_induction splitWords cs with
  | case1 => exact ⟨[], [], rfl⟩
  | case2 cs => exact ⟨[], splitWords cs, rfl⟩
  | case3 c cs _ ih =>
    obtain ⟨word, more, h⟩ := ih
    exact ⟨c :: word, more, by rw [h, List.modifyHead_cons]⟩

/-- The words joined again give the text back. -/
theorem intercalate_splitWords (cs : List Char) :
    ['_', '_'].intercalate (splitWords cs) = cs := by
  fun_induction splitWords cs with
  | case1 => rfl
  | case2 cs ih =>
    obtain ⟨word, more, h⟩ := exists_splitWords_eq_cons cs
    rw [h] at ih ⊢
    rw [List.intercalate_cons_cons, ih]
    rfl
  | case3 c cs _ ih =>
    obtain ⟨word, more, h⟩ := exists_splitWords_eq_cons cs
    rw [h] at ih ⊢
    rw [List.modifyHead_cons]
    cases more with
    | nil =>
      rw [List.intercalate_singleton] at ih ⊢
      rw [ih]
    | cons next more =>
      rw [List.intercalate_cons_cons] at ih ⊢
      simp [← ih]

/-- No two texts have the same words. -/
theorem splitWords_injective {cs cs' : List Char} (h : splitWords cs = splitWords cs') :
    cs = cs' := by
  rw [← intercalate_splitWords cs, h, intercalate_splitWords]

/-- The words that name a setting. -/
def Setting.words : Setting → List String
  | root => ["WEBAC", "ROOT"]
  | administrator => ["WEBAC", "ADMINISTRATOR_AGENT"]
  | admins => ["WEBAC", "ADMIN_AGENTS"]
  | anonymous => ["WEBAC", "ANONYMOUS_AGENT"]
  | initializeRoot => ["WEBAC", "INITIALIZE_ROOT_ACL"]
  | cacheEnabled => ["WEBAC", "CACHE", "ENABLED"]
  | cacheMaxEntries => ["WEBAC", "CACHE", "MAX_ENTRIES"]
  | cacheTtlSeconds => ["WEBAC", "CACHE", "TTL_SECS"]
  | serviceName => ["TELEMETRY", "SERVICE_NAME"]
  | loggingEnabled => ["TELEMETRY", "LOGGING", "ENABLED"]
  | loggingLevel => ["TELEMETRY", "LOGGING", "LEVEL"]
  | loggingFormat => ["TELEMETRY", "LOGGING", "FORMAT"]
  | loggingAnsi => ["TELEMETRY", "LOGGING", "ANSI_ENABLED"]
  | metricsEnabled => ["TELEMETRY", "METRICS", "ENABLED"]
  | metricsAddress => ["TELEMETRY", "METRICS", "ADDR"]

/-- After the beginning and `__`, the name of a variable has the words of the setting. -/
def Names (beginning name : String) (setting : Setting) : Prop :=
  ∃ rest : String, name = beginning ++ "__" ++ rest ∧
    splitWords rest.toList = setting.words.map String.toList

/-- The words of the path of a setting are those that name it. -/
theorem Setting.splitWords_path (setting : Setting) :
    splitWords setting.path.toList = setting.words.map String.toList := by
  cases setting <;> decide +kernel

/-- The words of a setting stand behind the beginning exactly in the name of its variable. -/
theorem names_iff {beginning name : String} {setting : Setting} :
    Names beginning name setting ↔ name = setting.variableName beginning := by
  constructor
  · rintro ⟨rest, rfl, hwords⟩
    rw [← setting.splitWords_path] at hwords
    rw [Setting.variableName, String.toList_inj.1 (splitWords_injective hwords)]
  · rintro rfl
    exact ⟨setting.path, rfl, setting.splitWords_path⟩

/-- A variable sets the setting that its words name. -/
theorem settingOf?_eq_some_iff_names {beginning name : String} {setting : Setting} :
    settingOf? beginning name = some setting ↔ Names beginning name setting :=
  settingOf?_eq_some_iff.trans names_iff.symm

/-! ## Environments in another order -/

variable {beginning : Option String} {env env' : Environment} {s s' : Settings}

/-- Where each name stands once, a variable is found exactly if it is listed. -/
theorem lookup_eq_some_iff_mem {name text : String} (h : (env.map (·.1)).Nodup) :
    env.lookup name = some text ↔ (name, text) ∈ env := by
  constructor
  · intro hlookup
    obtain ⟨before, after, rfl, -⟩ := List.lookup_eq_some_iff.1 hlookup
    exact List.mem_append_right before List.mem_cons_self
  · intro hmem
    obtain ⟨before, after, rfl⟩ := List.append_of_mem hmem
    refine List.lookup_eq_some_iff.2 ⟨before, after, rfl, ?_⟩
    intro entry hentry
    rw [List.map_append, List.map_cons, List.nodup_append] at h
    have hne : entry.1 ≠ name :=
      h.2.2 entry.1 (List.mem_map_of_mem hentry) name List.mem_cons_self
    simpa using hne.symm

/-- Where each name stands once, look-ups do not depend on the order. -/
theorem lookup_perm (h : (env.map (·.1)).Nodup) (hperm : env'.Perm env) (name : String) :
    env'.lookup name = env.lookup name := by
  have h' : (env'.map (·.1)).Nodup := (hperm.map _).nodup_iff.2 h
  apply Option.ext
  intro text
  rw [lookup_eq_some_iff_mem h', lookup_eq_some_iff_mem h, hperm.mem_iff]

/-- Where each name stands once, an environment says the same of an item in any order. -/
theorem Item.override?_perm (h : (env.map (·.1)).Nodup) (hperm : env'.Perm env) (item : Item) :
    item.override? beginning env' = item.override? beginning env := by
  have hnames : (env.reverse.map (·.1)).Nodup := by
    rw [List.map_reverse, List.nodup_reverse]
    exact h
  have hreverse : env'.reverse.Perm env.reverse :=
    (List.reverse_perm env').trans (hperm.trans (List.reverse_perm env).symm)
  cases item with
  | named setting => simp only [Item.override?, lookup_perm hnames hreverse]
  | location => rfl

/-- Where each name stands once, an environment is the same layer in any order. -/
theorem layered_perm_iff {start : Settings} (h : (env.map (·.1)).Nodup) (hperm : env'.Perm env) :
    Layered start none beginning env' s ↔ Layered start none beginning env s := by
  simp only [Layered, Item.override?_perm h hperm]

/-- Whether the values of an environment can be read does not depend on the order. -/
theorem readable_perm_iff (hperm : env'.Perm env) :
    Readable beginning env' ↔ Readable beginning env := by
  simp only [Readable, hperm.mem_iff]

/-! ## Single variables -/

section Single

variable {b : String} {entry : String × String} {e : Error}

/-- A variable that names no setting changes nothing. -/
theorem applyVariable_of_unnamed (h : ∀ setting, ¬Names b entry.1 setting) (s : Settings) :
    applyVariable b s entry = .ok s := by
  unfold applyVariable
  rcases hsetting : settingOf? b entry.1 with _ | setting
  · rfl
  · exact absurd (settingOf?_eq_some_iff_names.1 hsetting) (h setting)

/-- A variable that names a setting sets it, and is blamed if its value cannot be read. -/
theorem applyVariable_of_names {setting : Setting} (h : Names b entry.1 setting) (s : Settings) :
    applyVariable b s entry = (s.set setting entry.2).mapError (.environment entry.1) := by
  rw [applyVariable, settingOf?_eq_some_iff_names.2 h]

/-- A variable that cannot be applied is blamed by its name. -/
theorem exists_of_applyVariable_eq_error (h : applyVariable b s entry = .error e) :
    ∃ reason, e = .environment entry.1 reason := by
  by_cases hnames : ∃ setting, Names b entry.1 setting
  · obtain ⟨setting, hsetting⟩ := hnames
    rw [applyVariable_of_names hsetting] at h
    rcases hset : s.set setting entry.2 with reason | s'
    · rw [hset] at h
      exact ⟨reason, (Except.error.inj h).symm⟩
    · rw [hset] at h
      cases h
  · rw [applyVariable_of_unnamed (not_exists.1 hnames)] at h
    cases h

/-- Two environments are applied one after the other. -/
theorem applyEnvironment_append (b : String) (s : Settings) (env env' : Environment) :
    applyEnvironment b s (env ++ env') =
      applyEnvironment b s env >>= fun s => applyEnvironment b s env' :=
  List.foldlM_append

/-- The first variable of an environment is applied before the others. -/
theorem applyEnvironment_cons (b : String) (s : Settings) (entry : String × String)
    (env : Environment) :
    applyEnvironment b s (entry :: env) =
      applyVariable b s entry >>= fun s => applyEnvironment b s env :=
  List.foldlM_cons

/-- An environment that cannot be applied has a variable to blame. -/
theorem exists_of_applyEnvironment_eq_error (h : applyEnvironment b s env = .error e) :
    ∃ name reason, e = .environment name reason := by
  induction env generalizing s with
  | nil => cases h
  | cons entry env ih =>
    rw [applyEnvironment_cons] at h
    rcases bind_eq_error.1 h with hentry | ⟨s₁, -, hrest⟩
    · exact ⟨entry.1, exists_of_applyVariable_eq_error hentry⟩
    · exact ih hrest

end Single

namespace Loader

variable {l : Loader}

/-- The loader with another environment. -/
def withEnvironment (l : Loader) (env : Environment) : Loader := { l with environment := env }

/-- Where each name stands once, the order of the variables does not matter for what they make of
the settings. -/
theorem applied_perm_iff (h : (l.environment.map (·.1)).Nodup) (hperm : env.Perm l.environment) :
    (l.withEnvironment env).applied = .ok s ↔ l.applied = .ok s := by
  rw [applied_eq_ok_iff, applied_eq_ok_iff]
  exact and_congr (readable_perm_iff hperm) (layered_perm_iff h hperm)

/-- A loader whose environment cannot be applied blames a variable. -/
theorem exists_of_applied_eq_error {e : Error} (h : l.applied = .error e) :
    ∃ name reason, e = .environment name reason := by
  unfold applied at h
  rcases hbeginning : l.beginning with _ | b
  · rw [hbeginning] at h
    cases h
  · rw [hbeginning] at h
    exact exists_of_applyEnvironment_eq_error h

/-- What is loaded is what the variables made of the settings. -/
theorem applied_of_load (h : l.load = .ok s) : l.applied = .ok s := by
  rw [load_eq] at h
  obtain ⟨s', happlied, hrest⟩ := bind_eq_ok.1 h
  obtain ⟨-, hsame⟩ := check_bind_eq_ok.1 hrest
  rwa [← Except.ok.inj hsame]

/-- What the variables made of the settings is loaded if it passes the check. -/
theorem load_of_applied (h : l.applied = .ok s) :
    l.load = s.validate >>= fun _ => .ok s := by
  rw [load_eq, h, ok_bind]

/-- Where the variables cannot be applied nothing is loaded. -/
theorem load_of_applied_eq_error {e : Error} (h : l.applied = .error e) : l.load = .error e := by
  rw [load_eq, h, error_bind]

/-- A variable that names no setting may be left out. -/
theorem applied_of_unnamed {before after : Environment} {entry : String × String}
    (henv : l.environment = before ++ entry :: after)
    (h : ∀ b, l.beginning = some b → ∀ setting, ¬Names b entry.1 setting) :
    (l.withEnvironment (before ++ after)).applied = l.applied := by
  obtain ⟨start, beginning, environment⟩ := l
  obtain rfl : environment = before ++ entry :: after := henv
  cases beginning with
  | none => rfl
  | some b =>
    have hskip : ∀ s, applyEnvironment b s (entry :: after) = applyEnvironment b s after := by
      intro s
      rw [applyEnvironment_cons, applyVariable_of_unnamed (h b rfl), ok_bind]
    simp only [applied, withEnvironment, applyEnvironment_append, hskip]

/-- A variable that names a setting changes this item, to what its value says, and no other. -/
theorem applied_of_names {before after : Environment} {name text b : String} {setting : Setting}
    (hdistinct : (l.environment.map (·.1)).Nodup)
    (henv : l.environment = before ++ (name, text) :: after) (hb : l.beginning = some b)
    (hnames : Names b name setting) (h : l.applied = .ok s) :
    ∃ s₀, (l.withEnvironment (before ++ after)).applied = .ok s₀ ∧
      setting.read text = .ok (s.value (.named setting)) ∧
      ∀ item, item ≠ .named setting → s.value item = s₀.value item := by
  -- The order does not matter, so the variable may as well come last.
  have hperm : (before ++ after ++ [(name, text)]).Perm l.environment := by
    rw [henv, List.append_assoc]
    exact (List.perm_append_singleton (name, text) after).append_left before
  have hlast := (applied_perm_iff hdistinct hperm).2 h
  obtain ⟨start, beginning, environment⟩ := l
  obtain rfl : beginning = some b := hb
  obtain ⟨s₀, hs₀, hs⟩ := bind_eq_ok.1 ((applyEnvironment_append _ _ _ _).symm.trans hlast)
  rw [applyEnvironment_cons, applyVariable_of_names hnames] at hs
  obtain ⟨s₁, hset, hsame⟩ := bind_eq_ok.1 hs
  obtain rfl := Except.ok.inj hsame
  have hset' := mapError_eq_ok.1 hset
  refine ⟨s₀, hs₀, ?_, fun item hne => value_set_of_ne hset' hne⟩
  rw [← value_set s₀ setting text, hset']
  rfl

/-- Where each name stands once, the environment may be listed in any order: loading answers the
same settings, or the settings are the same and fail the check with the same error, or a variable
is blamed for its value. A variable whose name does not begin as it should, or goes on with words
that name no setting, has no effect at all. One that names a setting makes this item what its value
says, and all other items are as they would be without it; so where the settings load, what loads
without the variable differs in that item alone, unless without it the check fails. -/
theorem load_in_any_order (l : Loader) (env : Environment)
    (hdistinct : (l.environment.map (·.1)).Nodup) (hperm : env.Perm l.environment) :
    ((∃ s, l.load = .ok s ∧ (l.withEnvironment env).load = .ok s) ∨
      (∃ s e, l.applied = .ok s ∧ (l.withEnvironment env).applied = .ok s ∧
        s.validate = .error e ∧ l.load = .error e ∧ (l.withEnvironment env).load = .error e) ∨
      ∃ name reason name' reason', l.load = .error (.environment name reason) ∧
        (l.withEnvironment env).load = .error (.environment name' reason')) ∧
    (∀ before entry after, l.environment = before ++ entry :: after →
      (∀ b, l.beginning = some b → ∀ setting, ¬Names b entry.1 setting) →
      (l.withEnvironment (before ++ after)).load = l.load) ∧
    ∀ before name text after b setting, l.environment = before ++ (name, text) :: after →
      l.beginning = some b → Names b name setting →
      (∀ s, l.applied = .ok s →
        ∃ s₀, (l.withEnvironment (before ++ after)).applied = .ok s₀ ∧
          setting.read text = .ok (s.value (.named setting)) ∧
          ∀ item, item ≠ .named setting → s.value item = s₀.value item) ∧
      ∀ s, l.load = .ok s →
        ∃ s₀, ((l.withEnvironment (before ++ after)).load = .ok s₀ ∨
            ∃ e, (l.withEnvironment (before ++ after)).applied = .ok s₀ ∧
              s₀.validate = .error e ∧ (l.withEnvironment (before ++ after)).load = .error e) ∧
          setting.read text = .ok (s.value (.named setting)) ∧
          ∀ item, item ≠ .named setting → s.value item = s₀.value item := by
  refine ⟨?_, ?_, ?_⟩
  · rcases happlied : l.applied with e | s
    · right
      right
      rcases happlied' : (l.withEnvironment env).applied with e' | s'
      · obtain ⟨name, reason, rfl⟩ := exists_of_applied_eq_error happlied
        obtain ⟨name', reason', rfl⟩ := exists_of_applied_eq_error happlied'
        exact ⟨name, reason, name', reason', load_of_applied_eq_error happlied,
          load_of_applied_eq_error happlied'⟩
      · cases happlied.symm.trans ((applied_perm_iff hdistinct hperm).1 happlied')
    · have happlied' := (applied_perm_iff hdistinct hperm).2 happlied
      have hload := load_of_applied happlied
      have hload' := load_of_applied happlied'
      cases hvalid : s.validate with
      | error e =>
        rw [hvalid, error_bind] at hload hload'
        exact .inr (.inl ⟨s, e, rfl, happlied', hvalid, hload, hload'⟩)
      | ok =>
        rw [hvalid, ok_bind] at hload hload'
        exact .inl ⟨s, hload, hload'⟩
  · intro before entry after henv hunnamed
    rw [load_eq, load_eq, applied_of_unnamed henv hunnamed]
  · intro before name text after b setting henv hb hnames
    refine ⟨fun s happlied => applied_of_names hdistinct henv hb hnames happlied, ?_⟩
    intro s hload
    obtain ⟨s₀, hs₀, hread, hothers⟩ :=
      applied_of_names hdistinct henv hb hnames (applied_of_load hload)
    refine ⟨s₀, ?_, hread, hothers⟩
    have hload₀ := load_of_applied hs₀
    cases hvalid : s₀.validate with
    | error e =>
      rw [hvalid, error_bind] at hload₀
      exact .inr ⟨e, hs₀, rfl, hload₀⟩
    | ok =>
      rw [hvalid, ok_bind] at hload₀
      exact .inl hload₀

/-- A loader with two variables that set something, one with an underscore too many, and one with
another beginning. -/
def fourVariables : Loader where
  settings := .default
  beginning := some "APP"
  environment :=
    [("APP__WEBAC__ROOT", "http://example.com/"), ("APP__WEBAC___ROOT", "http://example.org/"),
      ("PATH", "/bin"), ("APP__WEBAC__CACHE__TTL_SECS", "30")]

/-- In both orders the settings have the root and the time of the two variables. The one with an
underscore too many may be left out, and without the one for the root the time stays. -/
theorem root_and_time_in_both_orders :
    let l := fourVariables
    let s : Settings := { Settings.default with
      access := { AccessSettings.default with
        root := "http://example.com/"
        cache := ⟨true, 1000, 30⟩ } }
    l.load = .ok s ∧ (l.withEnvironment l.environment.reverse).load = .ok s ∧
      (l.withEnvironment (l.environment.eraseIdx 1)).load = .ok s ∧
      ∃ s₀, (l.withEnvironment l.environment.tail).load = .ok s₀ ∧
        s₀.value (.named .cacheTtlSeconds) = .number 30 := by
  intro l s
  have hload : l.load = .ok s := by decide +kernel
  have hdistinct : (l.environment.map (·.1)).Nodup := by decide +kernel
  obtain ⟨horder, hunnamed, hnamed⟩ :=
    load_in_any_order l l.environment.reverse hdistinct (List.reverse_perm _)
  refine ⟨hload, ?_, ?_, ?_⟩
  · rcases horder with ⟨s', hs', hreversed⟩ | ⟨s', e, -, -, -, he, -⟩ | ⟨_, _, _, _, he, -⟩
    · rwa [← hload, hs']
    · cases hload.symm.trans he
    · cases hload.symm.trans he
  · rw [← hload]
    apply hunnamed [("APP__WEBAC__ROOT", "http://example.com/")] _ _ rfl
    intro b hb setting hnames
    obtain rfl := Option.some.inj hb
    have hsome := settingOf?_eq_some_iff_names.2 hnames
    have hnone : settingOf? "APP" "APP__WEBAC___ROOT" = none := by decide +kernel
    cases hnone.symm.trans hsome
  · have hroot : Names "APP" "APP__WEBAC__ROOT" .root :=
      settingOf?_eq_some_iff_names.1 (by decide +kernel)
    obtain ⟨-, hwithout⟩ := hnamed [] _ _ _ "APP" .root rfl rfl hroot
    obtain ⟨s₀, hs₀, -, hothers⟩ := hwithout s hload
    have htime := (hothers (.named .cacheTtlSeconds) (by decide)).symm
    rcases hs₀ with hs₀ | ⟨e, -, -, he⟩
    · exact ⟨s₀, hs₀, htime⟩
    · have hloads : (l.withEnvironment l.environment.tail).load.isOk = true := by decide +kernel
      have hfails : (l.withEnvironment l.environment.tail).load = .error e := he
      rw [hfails] at hloads
      cases hloads

end Loader

end WebAccess.Settings
