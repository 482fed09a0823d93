import Mathlib.Control.Monad.Basic
import WebAccess.Proofs.ServiceCalls
import WebAccess.Settings.Loader
import WebAccess.Startup
import WebAccess.Store.Overlay

/-!
# Who administers under accepted settings

An administrator holds every mode without a look at any rule, so it matters which texts count as
the name of one. They come from two settings: one administrator, and a list of further ones.
Settings that pass the check never make the anonymous agent an administrator, and the single
administrator is never blank. The list is not checked entry by entry: a blank name administers
exactly if the list has it (`Settings.blank_name_administers_iff`). An environment variable never
puts one there, since it leaves out what is blank; a document can
(`Settings.blank_entry_of_document_administers`), and then a session whose agent has no name holds
every mode.
-/

set_option autoImplicit false

namespace WebAccess

/-- Nothing stays of a text without the blanks at its ends exactly if it is all blanks. -/
theorem Text.trimmed_eq_empty_iff {s : String} : Text.trimmed s = "" ↔ Text.allBlank s = true := by
  unfold Text.trimmed Text.allBlank
  rw [List.all_eq_true, ← Text.trim_eq_nil_iff]
  exact String.ofList_eq_empty_iff

/-- A text that begins and ends without a blank, and holds nothing else, is empty. -/
theorem Text.trim_eq_nil_of_blank {cs : List Char} (h : ∀ c ∈ Text.trim cs, Text.isBlank c = true) :
    Text.trim cs = [] := by
  unfold Text.trim Text.trimRight at h
  have hback : ∀ c ∈ (cs.dropWhile Text.isBlank).reverse, Text.isBlank c = true := by
    apply Text.isBlank_of_mem_dropWhile
    intro c hc
    exact h c (List.mem_reverse.2 hc)
  have hfront : ∀ c ∈ cs, Text.isBlank c = true := by
    apply Text.isBlank_of_mem_dropWhile
    intro c hc
    exact hback c (List.mem_reverse.2 hc)
  exact (Text.trim_eq_nil_iff cs).2 hfront

namespace ServiceConfig

/-- An agent administers a service exactly if it is the administrator or one of the further ones. -/
theorem isAdministrator_iff {c : ServiceConfig} {agent : String} :
    c.isAdministrator agent = true ↔ agent = c.administrator ∨ agent ∈ c.admins := by
  unfold isAdministrator
  simp

/-- A configuration can be used exactly if root and agents are not blank and the anonymous agent is
no administrator. -/
theorem validate_eq_ok_iff {c : ServiceConfig} :
    c.validate = .ok () ↔
      Text.allBlank c.root = false ∧ Text.allBlank c.administrator = false ∧
        Text.allBlank c.anonymous = false ∧ c.isAdministrator c.anonymous = false := by
  unfold validate
  cases hroot : Text.allBlank c.root
  · cases hadmin : Text.allBlank c.administrator
    · cases hanon : Text.allBlank c.anonymous
      · cases hboth : c.isAdministrator c.anonymous <;> simp
      · simp
    · simp
  · simp

end ServiceConfig

namespace Settings

/-- An agent administers the service that settings configure exactly if they name it as the
administrator or among the further ones. -/
theorem isAdministrator_serviceConfig_iff {s : Settings} {agent : String} :
    s.serviceConfig.isAdministrator agent = true ↔
      agent = s.access.administrator ∨ agent ∈ s.access.admins := by
  rw [ServiceConfig.isAdministrator_iff]
  exact or_congr_right NameSet.mem_ofList

/-- A text passes the check for blanks exactly if it is not all blanks. -/
theorem checkGiven_eq_ok_iff {field value : String} :
    checkGiven field value = .ok () ↔ Text.allBlank value = false := by
  unfold checkGiven
  cases Text.allBlank value <;> simp

/-- Settings are accepted exactly if the service configuration that they describe is, and each of
the other sections. The three checks that come before are also made for the configuration. -/
theorem validate_eq_ok_iff {s : Settings} :
    s.validate = .ok () ↔
      s.serviceConfig.validate = .ok () ∧ checkCache s.access.cache = .ok () ∧
        checkLogging s.telemetry.logging = .ok () ∧ checkMetrics s.telemetry.metrics = .ok () := by
  unfold validate
  simp only [check_bind_eq_ok, checkGiven_eq_ok_iff, mapError_eq_ok]
  constructor
  · rintro ⟨-, -, -, hconfig, hcache, hlogging, hmetrics⟩
    exact ⟨hconfig, hcache, hlogging, hmetrics⟩
  · rintro ⟨hconfig, hcache, hlogging, hmetrics⟩
    obtain ⟨hroot, hadmin, hanon, -⟩ := ServiceConfig.validate_eq_ok_iff.1 hconfig
    exact ⟨hroot, hadmin, hanon, hconfig, hcache, hlogging, hmetrics⟩

/-- The names that a variable lists hold more than blanks. -/
theorem allBlank_of_mem_readNames {value name : String} (h : name ∈ readNames value) :
    Text.allBlank name = false := by
  unfold readNames at h
  obtain ⟨piece, hpiece, hname⟩ := List.mem_filterMap.1 h
  obtain ⟨cs, -, rfl⟩ := List.mem_map.1 hpiece
  split at hname
  · simp at hname
  · next hne =>
    obtain rfl := Option.some.inj hname
    apply Bool.eq_false_iff.2
    intro hblank
    have hall : ∀ c ∈ Text.trim cs, Text.isBlank c = true := by
      simpa [Text.allBlank] using hblank
    exact hne (List.isEmpty_iff.2 (Text.trim_eq_nil_of_blank hall))

/-- Under accepted settings no administrator is the anonymous agent, and a blank name administers
exactly if it stands in the list of further administrators. So no blank name does exactly if the
list has none, as when the list was read from a variable. -/
theorem blank_name_administers_iff {s : Settings} (h : s.validate = .ok ()) :
    (∀ agent, s.service.config.isAdministrator agent = true →
        agent ≠ s.service.config.anonymous) ∧
      (∀ agent, Text.trimmed agent = "" →
        (s.service.config.isAdministrator agent = true ↔ agent ∈ s.access.admins)) ∧
      ((∀ agent, s.service.config.isAdministrator agent = true → Text.trimmed agent ≠ "") ↔
        ∀ agent ∈ s.access.admins, Text.trimmed agent ≠ "") ∧
      (∀ value, s.access.admins = readNames value →
        ∀ agent, s.service.config.isAdministrator agent = true → Text.trimmed agent ≠ "") := by
  have hconfig : s.service.config = s.serviceConfig := rfl
  obtain ⟨-, hadmin, -, hanon⟩ := ServiceConfig.validate_eq_ok_iff.1 (validate_eq_ok_iff.1 h).1
  rw [hconfig]
  have hgiven : Text.trimmed s.access.administrator ≠ "" := by
    intro hblank
    have hall : Text.allBlank s.access.administrator = true := Text.trimmed_eq_empty_iff.1 hblank
    exact Bool.false_ne_true (hadmin.symm.trans hall)
  have hlist : ∀ agent, Text.trimmed agent = "" →
      (s.serviceConfig.isAdministrator agent = true ↔ agent ∈ s.access.admins) := by
    intro agent hblank
    rw [isAdministrator_serviceConfig_iff]
    apply or_iff_right
    rintro rfl
    exact hgiven hblank
  have hnone : (∀ agent, s.serviceConfig.isAdministrator agent = true → Text.trimmed agent ≠ "") ↔
      ∀ agent ∈ s.access.admins, Text.trimmed agent ≠ "" := by
    constructor
    · intro hall agent hmem hblank
      exact hall agent ((hlist agent hblank).2 hmem) hblank
    · intro hall agent hagent hblank
      exact hall agent ((hlist agent hblank).1 hagent) hblank
  refine ⟨?_, hlist, hnone, ?_⟩
  · rintro agent hagent rfl
    exact Bool.false_ne_true (hanon.symm.trans hagent)
  · intro value hvalue
    apply hnone.2
    intro agent hmem hblank
    rw [hvalue] at hmem
    have hfull := allBlank_of_mem_readNames hmem
    exact Bool.false_ne_true (hfull.symm.trans (Text.trimmed_eq_empty_iff.1 hblank))

/-- Settings with one further administrator. -/
def operatedSettings : Settings :=
  { default with access := { AccessSettings.default with admins := readNames " , ops ," } }

/-- Of the pieces between the commas of a variable only `ops` becomes an administrator. -/
theorem ops_and_no_blank_administers :
    operatedSettings.validate = .ok () ∧
      operatedSettings.service.config.isAdministrator "ops" = true ∧
      ∀ agent, operatedSettings.service.config.isAdministrator agent = true →
        Text.trimmed agent ≠ "" := by
  have hvalid : operatedSettings.validate = .ok () := by decide +kernel
  obtain ⟨-, -, -, hread⟩ := blank_name_administers_iff hvalid
  exact ⟨hvalid, by decide +kernel, hread " , ops ," rfl⟩

/-- A document that lists the empty name is accepted, and on a store without any rules a session
whose agent is the empty name holds every mode, while nobody else but the administrator does. -/
theorem blank_entry_of_document_administers :
    ∃ s, ofDocument .json "\x7b\"webac\": \x7b\"admin_agents\": [\"\"]\x7d\x7d" = .ok s ∧
      s.validate = .ok () ∧ Text.trimmed "" = "" ∧
      s.service.config.isAdministrator "" = true ∧
      (Service.accessModes Memory.empty.toStore 0 "/x" (.new "")).answer s.service = .ok .all ∧
      (Service.accessModes Memory.empty.toStore 0 "/x" (.new "alice")).answer s.service =
        .ok ∅ := by
  let s : Settings :=
    { default with access := { AccessSettings.default with admins := [""] } }
  refine ⟨s, by decide +kernel, by decide +kernel, by decide +kernel, by decide +kernel, ?_, ?_⟩
  · decide +kernel
  · decide +kernel

end Settings

end WebAccess
