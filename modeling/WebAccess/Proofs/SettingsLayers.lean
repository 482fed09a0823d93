import Mathlib.Control.Monad.Basic
import WebAccess.Proofs.SettingsItems

/-!
# Layers of settings

Settings are layered if each item is what a variable says, else what a document says, else what it
was at the start (`Settings.Layered`). The environment is a layer in this sense, whatever the
settings were before: loading changes the items that variables set, and no others
(`Settings.Loader.load_eq_ok_iff`). A document is a layer over the defaults, not over the settings
that the loader had. What a preset says is lost as soon as a document is taken, also where the
document is silent (`Settings.Loader.document_layered_over_default`); the result is what layers
above the preset would give exactly where preset and defaults agree on everything unsaid.
-/

set_option autoImplicit false

namespace WebAccess.Settings

open Document

/-! ## Variables -/

/-- The name of the variable that sets the setting, where names begin with `beginning`. -/
def Setting.variableName (beginning : String) (setting : Setting) : String :=
  beginning ++ "__" ++ setting.path

/-- A setting is found under its path. -/
theorem Setting.ofPath?_path (setting : Setting) : ofPath? setting.path = some setting := by
  cases setting <;> decide +kernel

/-- No two settings have variables of one name. -/
theorem Setting.variableName_injective {beginning : String} {setting other : Setting}
    (h : setting.variableName beginning = other.variableName beginning) : setting = other := by
  have hpath : setting.path = other.path := (String.append_right_inj _).1 h
  have hsome : some setting = some other := by
    rw [← Setting.ofPath?_path setting, hpath, Setting.ofPath?_path]
  exact Option.some.inj hsome

/-- Every setting is in the list of all settings. -/
theorem Setting.mem_all (setting : Setting) : setting ∈ all := by
  cases setting <;> decide

/-- A variable sets a setting exactly if it has the name of the variable for it. -/
theorem settingOf?_eq_some_iff {beginning name : String} {setting : Setting} :
    settingOf? beginning name = some setting ↔ name = setting.variableName beginning := by
  unfold settingOf?
  constructor
  · intro h
    have hname := List.find?_some h
    exact beq_iff_eq.1 hname
  · rintro rfl
    rcases hfind : Setting.all.find? fun other =>
        setting.variableName beginning == beginning ++ "__" ++ other.path with _ | other
    · have hnone := List.find?_eq_none.1 hfind setting setting.mem_all
      exact absurd (beq_self_eq_true _) hnone
    · have hname := List.find?_some hfind
      obtain rfl : setting = other := Setting.variableName_injective (beq_iff_eq.1 hname)
      exact hfind

/-- What the variables of an environment say about an item, if one of them sets it. Where a name is
given twice, the last value counts. -/
def Item.override? (beginning : Option String) (env : Environment) :
    Item → Option (Except String Value)
  | .named setting =>
    beginning.bind fun b => (env.reverse.lookup (setting.variableName b)).map setting.read
  | .location => none

/-- Each item is what a variable says, else what the document says, else what it was at the
start. -/
def Layered (start : Settings) (document : Option (Origin × Tree)) (beginning : Option String)
    (env : Environment) (s : Settings) : Prop :=
  ∀ item : Item,
    match item.override? beginning env with
    | some answer => answer = .ok (s.value item)
    | none =>
      match document with
      | some (origin, t) =>
        t.Gives item.place (item.decode origin) (start.value item) (s.value item)
      | none => s.value item = start.value item

/-- Each variable that sets an item has a value that can be read. -/
def Readable (beginning : Option String) (env : Environment) : Prop :=
  ∀ b, beginning = some b → ∀ entry ∈ env, ∀ setting : Setting,
    entry.1 = setting.variableName b → ∃ v, setting.read entry.2 = .ok v

/-- Layers determine the settings. -/
theorem Layered.unique {start s s' : Settings} {document : Option (Origin × Tree)}
    {beginning : Option String} {env : Environment} (h : Layered start document beginning env s)
    (h' : Layered start document beginning env s') : s = s' := by
  apply eq_of_value_eq
  intro item
  have hs := h item
  have hs' := h' item
  rcases hover : item.override? beginning env with _ | answer
  · rw [hover] at hs hs'
    rcases document with _ | ⟨origin, t⟩
    · exact hs.trans hs'.symm
    · exact Tree.Gives.unique hs hs'
  · rw [hover] at hs hs'
    exact Except.ok.inj (hs.symm.trans hs')

/-! ## The environment as a layer -/

section Environment

variable {beginning : String} {s s' : Settings} {entry : String × String} {env : Environment}

/-- What an environment says of an item is what its later variables say or, if they say nothing, its
first one. -/
theorem Item.override?_cons (item : Item) :
    item.override? (some beginning) (entry :: env) =
      (item.override? (some beginning) env).or (item.override? (some beginning) [entry]) := by
  cases item with
  | named setting =>
    simp only [Item.override?, List.reverse_cons, List.lookup_append, Option.bind_some,
      List.reverse_nil, List.nil_append]
    cases env.reverse.lookup (setting.variableName beginning) <;> rfl
  | location => rfl

/-- The variable of a setting says of this item what its value reads as. -/
theorem Item.override?_of_eq {setting : Setting} (h : entry.1 = setting.variableName beginning) :
    (Item.named setting).override? (some beginning) [entry] = some (setting.read entry.2) := by
  obtain ⟨name, text⟩ := entry
  obtain rfl : name = setting.variableName beginning := h
  simp [Item.override?]

/-- A variable says nothing of an item that it does not name. -/
theorem Item.override?_of_ne {item : Item}
    (h : ∀ setting, item = .named setting → entry.1 ≠ setting.variableName beginning) :
    item.override? (some beginning) [entry] = none := by
  cases item with
  | named setting =>
    have hne : setting.variableName beginning ≠ entry.1 := (h setting rfl).symm
    simp [Item.override?, hne]
  | location => rfl

/-- One variable changes the item that it sets. -/
theorem layered_applyVariable (h : applyVariable beginning s entry = .ok s') :
    Layered s none (some beginning) [entry] s' := by
  intro item
  unfold applyVariable at h
  rcases hsetting : settingOf? beginning entry.1 with _ | setting
  · rw [hsetting] at h
    obtain rfl := Except.ok.inj h
    have hnone : item.override? (some beginning) [entry] = none := by
      apply Item.override?_of_ne
      intro setting _ hname
      rw [settingOf?_eq_some_iff.2 hname] at hsetting
      simp at hsetting
    rw [hnone]
  · rw [hsetting] at h
    have hset := mapError_eq_ok.1 h
    have hname := settingOf?_eq_some_iff.1 hsetting
    by_cases hitem : item = .named setting
    · subst hitem
      rw [Item.override?_of_eq hname, ← value_set s setting entry.2, hset]
      rfl
    · have hnone : item.override? (some beginning) [entry] = none := by
        apply Item.override?_of_ne
        rintro other rfl hother
        rw [Setting.variableName_injective (hname.symm.trans hother)] at hitem
        exact hitem rfl
      rw [hnone]
      exact value_set_of_ne hset hitem

/-- The variables of an environment change the items that they set; the last one counts. -/
theorem layered_applyEnvironment (h : applyEnvironment beginning s env = .ok s') :
    Layered s none (some beginning) env s' := by
  induction env generalizing s with
  | nil =>
    obtain rfl := Except.ok.inj h
    intro item
    cases item <;> rfl
  | cons entry env ih =>
    unfold applyEnvironment at h
    rw [List.foldlM_cons] at h
    obtain ⟨s₁, hentry, hrest⟩ := bind_eq_ok.1 h
    intro item
    have hfirst := layered_applyVariable hentry item
    have hlater := ih hrest item
    rw [Item.override?_cons]
    rcases hover : item.override? (some beginning) env with _ | answer
    · rw [hover] at hlater
      rw [Option.none_or]
      rcases hone : item.override? (some beginning) [entry] with _ | answer
      · rw [hone] at hfirst
        exact hlater.trans hfirst
      · rw [hone] at hfirst
        exact hfirst.trans (congrArg Except.ok hlater.symm)
    · rw [hover] at hlater
      exact hlater

/-- A variable can be applied exactly if its value can be read as that of the setting it names, if
it names one. -/
theorem exists_applyVariable_iff :
    (∃ s', applyVariable beginning s entry = .ok s') ↔
      ∀ setting : Setting, entry.1 = setting.variableName beginning →
        ∃ v, setting.read entry.2 = .ok v := by
  unfold applyVariable
  rcases hsetting : settingOf? beginning entry.1 with _ | setting
  · refine iff_of_true ⟨s, rfl⟩ ?_
    intro setting hname
    rw [settingOf?_eq_some_iff.2 hname] at hsetting
    simp at hsetting
  · have hname := settingOf?_eq_some_iff.1 hsetting
    constructor
    · rintro ⟨s', h⟩ other hother
      obtain rfl := Setting.variableName_injective (hname.symm.trans hother)
      refine ⟨s'.value (.named setting), ?_⟩
      rw [← value_set s setting entry.2, mapError_eq_ok.1 h]
      rfl
    · intro h
      obtain ⟨v, hv⟩ := h setting hname
      rw [← value_set s setting entry.2] at hv
      obtain ⟨s', hset, -⟩ := map_eq_ok.1 hv
      exact ⟨s', mapError_eq_ok.2 hset⟩

/-- The environment can be applied exactly if its values can be read. -/
theorem exists_applyEnvironment_iff :
    (∃ s', applyEnvironment beginning s env = .ok s') ↔ Readable (some beginning) env := by
  induction env generalizing s with
  | nil => exact iff_of_true ⟨s, rfl⟩ fun _ _ entry hentry => absurd hentry List.not_mem_nil
  | cons entry env ih =>
    have hcons : (∃ s', applyEnvironment beginning s (entry :: env) = .ok s') ↔
        ∃ s₁, applyVariable beginning s entry = .ok s₁ ∧
          ∃ s', applyEnvironment beginning s₁ env = .ok s' := by
      unfold applyEnvironment
      simp only [List.foldlM_cons, bind_eq_ok]
      constructor
      · rintro ⟨s', s₁, hentry, hrest⟩
        exact ⟨s₁, hentry, s', hrest⟩
      · rintro ⟨s₁, hentry, s', hrest⟩
        exact ⟨s', s₁, hentry, hrest⟩
    rw [hcons]
    constructor
    · rintro ⟨s₁, hentry, hrest⟩ b hb other hother
      obtain rfl := Option.some.inj hb
      rcases List.mem_cons.1 hother with rfl | hother
      · exact exists_applyVariable_iff.1 ⟨s₁, hentry⟩
      · exact ih.1 hrest beginning rfl other hother
    · intro h
      obtain ⟨s₁, hentry⟩ := exists_applyVariable_iff.2 (h beginning rfl entry List.mem_cons_self)
      refine ⟨s₁, hentry, ih.2 ?_⟩
      intro b hb other hother
      exact h b hb other (List.mem_cons_of_mem entry hother)

end Environment

namespace Loader

/-- The settings of a loader with what the environment changes, before they are checked. -/
def applied (l : Loader) : Except Error Settings :=
  match l.beginning with
  | none => .ok l.settings
  | some beginning => l.settings.applyEnvironment beginning l.environment

/-- Loading applies the environment and then checks the settings. -/
theorem load_eq (l : Loader) :
    l.load = l.applied >>= fun s => s.validate >>= fun _ => .ok s := by
  unfold load applied
  cases l.beginning <;> rfl

/-- The environment makes these of the settings exactly if its values can be read and it is a layer
above the settings of the loader. -/
theorem applied_eq_ok_iff {l : Loader} {s : Settings} :
    l.applied = .ok s ↔
      Readable l.beginning l.environment ∧ Layered l.settings none l.beginning l.environment s := by
  unfold applied
  rcases l.beginning with _ | beginning
  · have hstart : Layered l.settings none none l.environment l.settings := by
      intro item
      cases item <;> rfl
    constructor
    · intro h
      obtain rfl := Except.ok.inj h
      exact ⟨fun b hb => by simp at hb, hstart⟩
    · rintro ⟨-, h⟩
      exact congrArg Except.ok (hstart.unique h)
  · constructor
    · intro h
      exact ⟨exists_applyEnvironment_iff.1 ⟨s, h⟩, layered_applyEnvironment h⟩
    · rintro ⟨hreadable, h⟩
      obtain ⟨s', happlied⟩ := (exists_applyEnvironment_iff (s := l.settings)).2 hreadable
      obtain rfl : s' = s := (layered_applyEnvironment happlied).unique h
      exact happlied

/-- Loading answers the settings of the loader with the environment as a layer above them, provided
that its values can be read and the result passes the check; and nothing else. -/
theorem load_eq_ok_iff {l : Loader} {s : Settings} :
    l.load = .ok s ↔
      Readable l.beginning l.environment ∧
        Layered l.settings none l.beginning l.environment s ∧ s.validate = .ok () := by
  rw [load_eq, ← and_assoc, ← applied_eq_ok_iff]
  constructor
  · intro h
    obtain ⟨s', happlied, hrest⟩ := bind_eq_ok.1 h
    obtain ⟨hvalid, hsame⟩ := check_bind_eq_ok.1 hrest
    obtain rfl := Except.ok.inj hsame
    exact ⟨happlied, hvalid⟩
  · rintro ⟨happlied, hvalid⟩
    exact bind_eq_ok.2 ⟨s, happlied, check_bind_eq_ok.2 ⟨hvalid, rfl⟩⟩

end Loader

/-! ## A document as a layer -/

/-- The origin of the trees that are read from a form. -/
def DocumentFormat.origin : DocumentFormat → Origin
  | .toml => .toml
  | .json => .jsonText

/-- The tree that is read from a text in a form. -/
def DocumentFormat.tree? (format : DocumentFormat) (text : String) : Option Tree :=
  match format with
  | .toml => Toml.read text
  | .json => some (Json.read text).1

/-- Settings that come from a document are decoded from its tree. -/
theorem exists_tree_of_ofDocument {format : DocumentFormat} {text : String} {s : Settings}
    (h : ofDocument format text = .ok s) :
    ∃ t, format.tree? text = some t ∧ Settings.decode format.origin t = .ok s := by
  unfold ofDocument at h
  cases format with
  | toml =>
    rcases hread : Toml.read text with _ | t
    · simp [hread] at h
    · simp only [hread] at h
      exact ⟨t, hread, mapError_eq_ok.1 h⟩
  | json =>
    have hwhole := mapError_eq_ok.1 h
    unfold whole at hwhole
    obtain ⟨s', hdecode, hend⟩ := bind_eq_ok.1 hwhole
    split at hend
    · obtain rfl := Except.ok.inj hend
      exact ⟨_, rfl, hdecode⟩
    · simp at hend

/-- What the environment changes of settings that were taken from a document is layered over the
document and the defaults. -/
theorem layered_over_document {origin : Origin} (horigin : origin ≠ .jsonValue) {t : Tree}
    {s s' : Settings} {beginning : Option String} {env : Environment}
    (hdecode : Settings.decode origin t = .ok s) (h : Layered s none beginning env s') :
    Layered .default (some (origin, t)) beginning env s' := by
  intro item
  have hgives := Settings.gives_of_decode horigin hdecode item
  have hitem := h item
  rcases hover : item.override? beginning env with _ | answer
  · rw [hover] at hitem
    show t.Gives item.place (item.decode origin) (Settings.default.value item) (s'.value item)
    rw [hitem]
    exact hgives
  · rw [hover] at hitem
    exact hitem

/-- A document gives the same settings over two starts exactly where these agree on every item that
neither the environment nor the document sets. -/
theorem Layered.change_start_iff {origin : Origin} {t : Tree} {start start' s : Settings}
    {beginning : Option String} {env : Environment}
    (h : Layered start (some (origin, t)) beginning env s) :
    Layered start' (some (origin, t)) beginning env s ↔
      ∀ item : Item, item.override? beginning env = none → t.under? item.place = none →
        start'.value item = start.value item := by
  constructor
  · intro h' item hover hunder
    have hs := h item
    have hs' := h' item
    simp only [hover] at hs hs'
    exact hs.change_fallback_iff.1 hs' hunder
  · intro hagree item
    have hs := h item
    rcases hover : item.override? beginning env with _ | answer
    · simp only [hover] at hs ⊢
      exact hs.change_fallback_iff.2 (hagree item hover)
    · simp only [hover] at hs ⊢
      exact hs

namespace Loader

/-- The loader takes a text in a form, given as such or in a file, and becomes `l'`. -/
def Takes (l : Loader) (format : DocumentFormat) (text : String) (l' : Loader) : Prop :=
  (∃ name, DocumentFormat.ofName? name = some format ∧ l.withDocument name text = .ok l') ∨
    ∃ d name, Directory.find d name = .text text ∧
      (extension? name).bind DocumentFormat.ofName? = some format ∧ l.withFile d name = .ok l'

/-- A loader that takes a document has its settings replaced by those of the document. -/
theorem Takes.exists_settings {l l' : Loader} {format : DocumentFormat} {text : String}
    (h : l.Takes format text l') :
    ∃ s, ofDocument format text = .ok s ∧ l' = l.withPreset s := by
  rcases h with ⟨name, hname, htaken⟩ | ⟨d, name, hfound, hname, htaken⟩
  · unfold withDocument at htaken
    simp only [hname] at htaken
    obtain ⟨s, hs, rfl⟩ := map_eq_ok.1 htaken
    exact ⟨s, hs, rfl⟩
  · unfold withFile at htaken
    simp only [hfound, hname] at htaken
    obtain ⟨s, hs, rfl⟩ := map_eq_ok.1 htaken
    exact ⟨s, hs, rfl⟩

/-- Settings that are loaded after a document was taken are the environment over the document over
the defaults, whatever the loader had before. They are what layers over the settings of the loader
would give exactly if these are the defaults for every item that neither the environment nor the
document sets. -/
theorem document_layered_over_default {l l' last : Loader} {format : DocumentFormat}
    {text : String} {s : Settings} (htakes : l.Takes format text l')
    (hsettings : last.settings = l'.settings) (hload : last.load = .ok s) :
    ∃ t, format.tree? text = some t ∧
      Layered .default (some (format.origin, t)) last.beginning last.environment s ∧
      (Layered l.settings (some (format.origin, t)) last.beginning last.environment s ↔
        ∀ item : Item, item.override? last.beginning last.environment = none →
          t.under? item.place = none → l.settings.value item = Settings.default.value item) := by
  obtain ⟨taken, hdocument, rfl⟩ := htakes.exists_settings
  obtain ⟨t, htree, hdecode⟩ := exists_tree_of_ofDocument hdocument
  obtain ⟨-, hlayered, -⟩ := load_eq_ok_iff.1 hload
  have horigin : format.origin ≠ .jsonValue := by cases format <;> decide
  have htaken : last.settings = taken := hsettings
  rw [htaken] at hlayered
  have hdefault := layered_over_document horigin hdecode hlayered
  exact ⟨t, htree, hdefault, hdefault.change_start_iff⟩

/-- A document that names another root. -/
def rootDocument : String :=
  "\x7b\"webac\": \x7b\"root\": \"http://example.com/\"\x7d\x7d"

/-- The settings that the document gives. -/
def rootSettings : Settings :=
  { Settings.default with
    access := { AccessSettings.default with root := "http://example.com/" } }

/-- With the preset for production, a document that names a root, and a variable for the time to
live, the settings have the root of the document and the time of the variable; for the rest they
are the defaults, and not what layers over the preset would give. -/
theorem root_and_time_over_default :
    let l := (Loader.new [("APP__WEBAC__CACHE__TTL_SECS", "30")]).withPreset .production
    let l' := l.withPreset rootSettings
    let s : Settings := { rootSettings with
      access := { rootSettings.access with cache := ⟨true, 1000, 30⟩ } }
    l.Takes .json rootDocument l' ∧ (l'.withBeginning "app").load = .ok s ∧
      ∃ t, DocumentFormat.json.tree? rootDocument = some t ∧
        Layered .default (some (.jsonText, t)) (some "APP") l.environment s ∧
        ¬Layered .production (some (.jsonText, t)) (some "APP") l.environment s := by
  intro l l' s
  have hdocument : ofDocument .json rootDocument = .ok rootSettings := by decide +kernel
  have htakes : l.Takes .json rootDocument l' := by
    refine .inl ⟨"json", by decide +kernel, ?_⟩
    have hname : DocumentFormat.ofName? "json" = some .json := by decide +kernel
    simp only [withDocument, hname, hdocument]
    rfl
  have hload : (l'.withBeginning "app").load = .ok s := by decide +kernel
  have hbeginning : (l'.withBeginning "app").beginning = some "APP" := by decide +kernel
  have hsettings : (l'.withBeginning "app").settings = l'.settings := rfl
  obtain ⟨t, htree, hdefault, hiff⟩ := document_layered_over_default htakes hsettings hload
  rw [hbeginning] at hdefault hiff
  refine ⟨htakes, hload, t, htree, hdefault, ?_⟩
  intro hproduction
  have hunder : ((DocumentFormat.json.tree? rootDocument).bind fun t =>
      t.under? (Item.named .initializeRoot).place).isNone = true := by decide +kernel
  rw [htree] at hunder
  have hover : ((Item.named .initializeRoot).override? (some "APP") l.environment).isNone =
      true := by decide +kernel
  have hsame := hiff.1 hproduction (.named .initializeRoot) (Option.isNone_iff_eq_none.1 hover)
    (Option.isNone_iff_eq_none.1 hunder)
  exact absurd hsame (by decide)

/-- The preset for production keeps a root without rules closed. After an empty document nothing is
left of it: the settings are the defaults, which open the root. -/
theorem production_lost_in_empty_document :
    let l := (Loader.new []).withPreset .production
    let empty := "\x7b\x7d"
    (l.withDocument "json" empty).map (·.settings) = .ok .default ∧
      (l.withPreset .default).load = .ok .default ∧
      Settings.production.value (.named .initializeRoot) = .flag false ∧
      Settings.default.value (.named .initializeRoot) = .flag true ∧
      ∀ t, DocumentFormat.json.tree? empty = some t →
        ¬Layered .production (some (.jsonText, t)) none [] .default := by
  intro l empty
  refine ⟨by decide +kernel, by decide +kernel, rfl, rfl, ?_⟩
  intro t htree hlayered
  have hunder : ((DocumentFormat.json.tree? empty).bind fun t =>
      t.under? (Item.named .initializeRoot).place).isNone = true := by decide +kernel
  rw [htree] at hunder
  have hitem : t.Gives (Item.named .initializeRoot).place
      ((Item.named .initializeRoot).decode .jsonText) (.flag false) (.flag true) :=
    hlayered (.named .initializeRoot)
  unfold Tree.Gives at hitem
  have hnone : t.under? (Item.named .initializeRoot).place = none :=
    Option.isNone_iff_eq_none.1 hunder
  rw [hnone] at hitem
  exact absurd hitem (by decide)

end Loader

end WebAccess.Settings
