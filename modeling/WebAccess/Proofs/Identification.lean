import Mathlib.Control.Monad.Basic
import WebAccess.Proofs.Delegation
import WebAccess.Proofs.NearestRules

/-!
# Requests without identification

Three parts of the library know the agent of requests without identification. A session without
identification is that of one fixed agent. Resolution keeps the class of identified agents from the
agent that the configuration names. A denied request is answered with a demand for identification
if its agent is the one that the configuration names, and is forbidden otherwise.

The last two always agree with each other. The first agrees with them exactly if the configuration
names the fixed agent; under any other configuration that does not make it an administrator, the
session without identification passes for an identified one
(`Service.session_without_identification_iff`).
-/

set_option autoImplicit false

namespace WebAccess

open Rdf (Graph Term)

namespace Store

/-- The subject admits the agent whether it is identified or not: it admits every agent, this agent,
or the members of a group that lists it. -/
def AdmittedAnyway (s : Store) (agent : String) (g : Graph) (subject : Term) : Prop :=
  g.States subject .agentClass Vocab.foafAgent.iri ∨ g.States subject .agent agent ∨
    ∃ group, g.States subject .agentGroup group ∧ s.ListsMember group agent

/-- At the nearest governed place a subject states the mode that admits the agent anyway. -/
def GrantedAnyway (s : Store) (id : Identifier) (agent : String) (m : Mode) : Prop :=
  ∃ k w r g subject, s.NearestAt s.climb id k ∧ s.CarriesAt s.climb id k w r g ∧
    g.Governs r.identifier k subject ∧ g.States subject .mode m.iri ∧
    s.AdmittedAnyway agent g subject

variable {s : Store} {anonymous agent : String} {id : Identifier}

/-- The agent without identification is never admitted as an identified one. -/
theorem admittedBy_self_iff {g : Graph} {subject : Term} :
    s.AdmittedBy agent agent g subject ↔ s.AdmittedAnyway agent g subject := by
  unfold AdmittedBy AdmittedAnyway
  simp

/-- Each mode that is granted is stated, at the nearest governed place, by a subject that admits the
agent. -/
theorem exists_subject_of_resolve {outcome : Outcome} {m : Mode}
    (h : (s.resolve anonymous id agent).answer = .ok outcome) (hm : m ∈ outcome.modes) :
    ∃ k w r g subject, s.NearestAt s.climb id k ∧ s.CarriesAt s.climb id k w r g ∧
      g.Governs r.identifier k subject ∧ g.States subject .mode m.iri ∧
      s.AdmittedBy anonymous agent g subject := by
  rw [answer_resolve] at h
  obtain ⟨found, hsearch, hrest⟩ := bind_eq_ok.1 h
  have hfinds := finds_of_search hsearch
  rcases found with _ | ⟨acl, rules⟩
  · obtain rfl := Except.ok.inj hrest
    exact absurd hm ModeSet.not_mem_empty
  · obtain ⟨modes, hmodes, hout⟩ := bind_eq_ok.1 hrest
    obtain rfl := Except.ok.inj hout
    obtain ⟨k, r, g, hnear, hcarries, rfl⟩ := hfinds
    have hsource := mem_of_grantedModes (fun _ => Rule.mem_applicable_extract) hmodes m
    obtain ⟨subject, hgoverns, hstates, hadmitted⟩ := hsource.1 hm
    exact ⟨k, acl, r, g, subject, hnear, hcarries, hgoverns, hstates, hadmitted⟩

/-- Each mode that is granted to the agent without identification is granted to it as to anyone. -/
theorem grantedAnyway_of_resolve {outcome : Outcome} {m : Mode}
    (h : (s.resolve agent id agent).answer = .ok outcome) (hm : m ∈ outcome.modes) :
    s.GrantedAnyway id agent m := by
  obtain ⟨k, w, r, g, subject, hnear, hcarries, hgoverns, hstates, hadmitted⟩ :=
    exists_subject_of_resolve h hm
  exact ⟨k, w, r, g, subject, hnear, hcarries, hgoverns, hstates, admittedBy_self_iff.1 hadmitted⟩

/-! ## A store for identified agents -/

/-- A graph whose only subject covers `/` and lets identified agents read. -/
def membersGraph : Graph :=
  Graph.ofList
    [⟨.blank "members", Vocab.accessTo.iri, .iri "/"⟩,
      ⟨.blank "members", Vocab.agentClass.iri, .iri Vocab.authenticatedAgent.iri⟩,
      ⟨.blank "members", Vocab.mode.iri, .iri Mode.read.iri⟩]

/-- A store with a root that identified agents may read. -/
def membersStore : Store :=
  Memory.toStore (Memory.empty.put ⟨"/", ∅, some membersGraph⟩)

/-- In the store for identified agents every agent but the one without identification may read the
root. -/
theorem answer_resolve_membersStore (h : agent ≠ anonymous) :
    (membersStore.resolve anonymous "/" agent).answer = .ok ⟨some "/", .ofList [.read]⟩ := by
  have hsearch : (membersStore.search true [] "/" (membersStore.horizon "/")).answer =
      .ok (some ("/", [Rule.about membersGraph (.blank "members")])) := by decide +kernel
  have hclass : (Rule.about membersGraph (.blank "members")).hasClass .authenticatedAgent =
      true := by decide +kernel
  have hmodes : (Rule.about membersGraph (.blank "members")).modes = .ofList [.read] := by
    decide +kernel
  have hadmits : (membersStore.admits anonymous (Rule.about membersGraph (.blank "members"))
      agent).answer = .ok true := by
    unfold admits
    rw [if_pos (.inr (.inl ⟨hclass, h⟩))]
    rfl
  rw [answer_resolve, hsearch, ok_bind]
  show ((membersStore.grantedModes anonymous agent _).answer >>= _) = _
  rw [answer_grantedModes_cons, hadmits, ok_bind, hmodes]
  rfl

/-- In the store for identified agents no mode is granted regardless of identification. -/
theorem not_grantedAnyway_membersStore (agent : String) (m : Mode) :
    ¬membersStore.GrantedAnyway "/" agent m := by
  rintro ⟨k, w, r, g, subject, -, hcarries, -, -, hadmitted⟩
  have hfind : (Memory.empty.put ⟨"/", ∅, some membersGraph⟩).find? w = some r :=
    Except.ok.inj hcarries.stored
  have hr : r = ⟨"/", ∅, some membersGraph⟩ := by
    have hmem := List.mem_of_find?_eq_some hfind
    simpa [Memory.put, Memory.remove, Memory.empty] using hmem
  have hg : membersGraph = g := by
    have hacl := hcarries.carried
    rw [hr] at hacl
    exact Option.some.inj hacl
  subst hg
  have hstated : ∀ t ∈ membersGraph.triples,
      t.predicate ≠ Vocab.agent.iri ∧ t.predicate ≠ Vocab.agentGroup.iri ∧
        t.object ≠ .iri Vocab.foafAgent.iri := by decide +kernel
  rcases hadmitted with hclass | hname | ⟨group, hgroup, -⟩
  · exact (hstated _ hclass).2.2 rfl
  · exact (hstated _ hname).1 rfl
  · exact (hstated _ hgroup).2.1 rfl

end Store

namespace Service

variable {store : Store} {now : Nat} {id : Identifier} {service : Service}

/-- Whatever the store, what the session obtains it obtains from rules that admit its agent anyway,
unless the agent is an administrator. -/
def ObtainsAsAnyone (config : ServiceConfig) (session : Session) : Prop :=
  ∀ (store : Store) (now : Nat) (id : Identifier) (service : Service) (modes : ModeSet),
    service.config = config → Faithful store service →
    config.isAdministrator session.agent = false →
    (accessModes store now id session).answer service = .ok modes →
    ∀ m, m ∈ modes → store.GrantedAnyway id session.agent m

/-- Whatever the store, a request of the session that is denied is answered with a demand for
identification, unless the agent is an administrator. -/
def DeniedAsUnidentified (config : ServiceConfig) (session : Session) : Prop :=
  ∀ (store : Store) (now : Nat) (id : Identifier) (service : Service) (method : Method)
    (target : RequestTarget) (decision : Decision),
    service.config = config → Faithful store service →
    config.isAdministrator session.agent = false →
    (check store now id session method target).answer service = .ok decision →
    decision.isGranted = false → ∃ missing, decision = .unauthenticated missing

/-- A service that remembers only what is current answers for a session that is not delegated what
resolution yields. -/
theorem answer_authorizedModes_new (now : Nat) (id : Identifier) {agent : String}
    (hfaithful : Faithful store service) (h : service.config.isAdministrator agent = false) :
    (authorizedModes store now id (.new agent)).answer service =
      (store.resolve service.config.anonymous id agent).answer := by
  have hlookups : lookups store now id (.new agent) service =
      [(agent, (outcomeFor store now id agent).answer service)] := by
    simp [lookups, Session.new, h]
  rw [answer_authorizedModes, hlookups]
  exact hfaithful.answer_outcomeFor h

/-- A denial is a demand for identification exactly where it says that the agent is not
identified. -/
theorem evaluate_of_denied {required granted : ModeSet} {anonymous : Bool}
    (h : (Decision.evaluate required granted anonymous).isGranted = false) :
    (∃ missing, Decision.evaluate required granted anonymous = .unauthenticated missing) ↔
      anonymous = true := by
  unfold Decision.evaluate at h ⊢
  rcases hmissing : (ModeSet.ofPred fun m => required.contains m && !permits granted m).isEmpty
    with _ | _
  · cases anonymous <;> simp [hmissing]
  · simp [hmissing, Decision.isGranted, Decision.verdict] at h

section Laws

variable {config : ServiceConfig} {agent : String}

/-- A session of an administrator is exempt from the law on what it obtains. -/
theorem obtainsAsAnyone_of_administrator (h : config.isAdministrator agent = true) :
    ObtainsAsAnyone config (.new agent) := by
  intro store now id service modes _ _ hordinary
  exact absurd (hordinary.symm.trans h) Bool.false_ne_true

/-- A session of an administrator is exempt from the law on how it is denied. -/
theorem deniedAsUnidentified_of_administrator (h : config.isAdministrator agent = true) :
    DeniedAsUnidentified config (.new agent) := by
  intro store now id service method target decision _ _ hordinary
  exact absurd (hordinary.symm.trans h) Bool.false_ne_true

/-- The session of the configured agent without identification obtains only what anyone does. -/
theorem obtainsAsAnyone_anonymous (config : ServiceConfig) :
    ObtainsAsAnyone config (.new config.anonymous) := by
  rintro store now id service modes rfl hfaithful hordinary haccess m hm
  have hresolver := answer_authorizedModes_new now id hfaithful hordinary
  rw [answer_accessModes] at haccess
  obtain ⟨outcome, houtcome, hmodes⟩ := bind_eq_ok.1 haccess
  obtain rfl := Except.ok.inj hmodes
  exact Store.grantedAnyway_of_resolve (hresolver.symm.trans houtcome) hm

/-- The session of the configured agent without identification is denied with a demand for
identification. -/
theorem deniedAsUnidentified_anonymous (config : ServiceConfig) :
    DeniedAsUnidentified config (.new config.anonymous) := by
  rintro store now id service method target decision rfl hfaithful hordinary hcheck hdenied
  rw [answer_check] at hcheck
  obtain ⟨outcome, -, hdecision⟩ := bind_eq_ok.1 hcheck
  obtain rfl := Except.ok.inj hdecision
  exact (evaluate_of_denied hdenied).2 (by simp [ServiceConfig.isAnonymous, Session.new])

/-- An ordinary agent that counts as identified may read the root of the store. -/
theorem authorizedModes_membersStore (h : agent ≠ config.anonymous)
    (hordinary : config.isAdministrator agent = false) :
    (authorizedModes Store.membersStore 0 "/" (.new agent)).answer (.new config none) =
      .ok ⟨some "/", .ofList [.read]⟩ := by
  have hfaithful : Faithful Store.membersStore (.new config none) := faithful_of_uncached rfl
  rw [answer_authorizedModes_new 0 "/" hfaithful hordinary]
  exact Store.answer_resolve_membersStore h

/-- An ordinary agent that counts as identified obtains something that not anyone does. -/
theorem not_obtainsAsAnyone (h : agent ≠ config.anonymous)
    (hordinary : config.isAdministrator agent = false) :
    ¬ObtainsAsAnyone config (.new agent) := by
  intro hlaw
  have haccess : (accessModes Store.membersStore 0 "/" (.new agent)).answer (.new config none) =
      .ok (.ofList [.read]) := by
    rw [answer_accessModes, authorizedModes_membersStore h hordinary]
    rfl
  have hgranted := hlaw Store.membersStore 0 "/" (.new config none) _ rfl
    (faithful_of_uncached rfl) hordinary haccess .read (by decide)
  exact Store.not_grantedAnyway_membersStore agent .read hgranted

/-- An ordinary agent that counts as identified is denied without a demand for identification. -/
theorem not_deniedAsUnidentified (h : agent ≠ config.anonymous)
    (hordinary : config.isAdministrator agent = false) :
    ¬DeniedAsUnidentified config (.new agent) := by
  intro hlaw
  have hcheck : (check Store.membersStore 0 "/" (.new agent) (.other "PUT") .resource).answer
      (.new config none) = .ok (.forbidden (.ofList [.write])) := by
    have hidentified : config.isAnonymous agent = false := by
      simpa [ServiceConfig.isAnonymous] using h
    rw [answer_check, authorizedModes_membersStore h hordinary]
    show Except.ok (Decision.evaluate _ _ (config.isAnonymous agent)) = _
    rw [hidentified]
    rfl
  obtain ⟨missing, hdecision⟩ := hlaw Store.membersStore 0 "/" (.new config none) _ _ _ rfl
    (faithful_of_uncached rfl) hordinary hcheck rfl
  simp at hdecision

end Laws

/-- The session without identification obtains what anyone obtains, and is asked to identify itself
where it is denied, exactly under the configurations that name its agent as the one without
identification, and under those that make this agent an administrator. The session of the agent
that the configuration names does so under every configuration. -/
theorem session_without_identification_iff (config : ServiceConfig) :
    let named := config.anonymous = Vocab.anonymousAgent.iri ∨
      config.isAdministrator Vocab.anonymousAgent.iri = true
    (ObtainsAsAnyone config .anonymous ↔ named) ∧
      (DeniedAsUnidentified config .anonymous ↔ named) ∧
      ObtainsAsAnyone config (.new config.anonymous) ∧
      DeniedAsUnidentified config (.new config.anonymous) := by
  intro named
  have hobtains : ObtainsAsAnyone config (.new config.anonymous) :=
    obtainsAsAnyone_anonymous config
  have hdenied : DeniedAsUnidentified config (.new config.anonymous) :=
    deniedAsUnidentified_anonymous config
  refine ⟨⟨?_, ?_⟩, ⟨?_, ?_⟩, hobtains, hdenied⟩
  · intro hlaw
    by_contra hnot
    obtain ⟨hne, hordinary⟩ := not_or.1 hnot
    exact not_obtainsAsAnyone (Ne.symm hne) (Bool.eq_false_iff.2 hordinary) hlaw
  · rintro (hnamed | hadmin)
    · unfold Session.anonymous
      rwa [← hnamed]
    · exact obtainsAsAnyone_of_administrator hadmin
  · intro hlaw
    by_contra hnot
    obtain ⟨hne, hordinary⟩ := not_or.1 hnot
    exact not_deniedAsUnidentified (Ne.symm hne) (Bool.eq_false_iff.2 hordinary) hlaw
  · rintro (hnamed | hadmin)
    · unfold Session.anonymous
      rwa [← hnamed]
    · exact deniedAsUnidentified_of_administrator hadmin

/-- Where the configuration calls the agent without identification `nobody`, which it accepts, the
session without identification reads what is kept for identified agents, and is refused where it
should be asked to identify itself. -/
theorem nobody_configured_lets_session_pass_for_member :
    plainConfig.validate = .ok () ∧
      plainConfig.isAdministrator Session.anonymous.agent = false ∧
      (accessModes Store.membersStore 0 "/" .anonymous).answer (.new plainConfig none) =
        .ok (.ofList [.read]) ∧
      (check Store.membersStore 0 "/" .anonymous (.other "PUT") .resource).answer
        (.new plainConfig none) = .ok (.forbidden (.ofList [.write])) ∧
      ¬ObtainsAsAnyone plainConfig .anonymous ∧ ¬DeniedAsUnidentified plainConfig .anonymous := by
  have hne : Vocab.anonymousAgent.iri ≠ plainConfig.anonymous := by decide +kernel
  have hordinary : plainConfig.isAdministrator Vocab.anonymousAgent.iri = false := by
    decide +kernel
  refine ⟨by decide +kernel, hordinary, by decide +kernel, by decide +kernel, ?_, ?_⟩
  · exact not_obtainsAsAnyone hne hordinary
  · exact not_deniedAsUnidentified hne hordinary

end Service

end WebAccess
