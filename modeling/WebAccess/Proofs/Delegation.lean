import Mathlib
import WebAccess.Proofs.ServiceRun
import WebAccess.Store.Overlay

/-!
# Delegated sessions

An agent that acts on behalf of another holds what both hold: over a store that does not change,
whatever was asked before and whatever is remembered, the modes of a delegated session are the
intersection of the two agents' modes (`Service.delegated_modes`). Administrators are the exception
on one side. They hold every mode before a delegate is looked at, so acting on behalf of somebody
does not narrow them; as delegates they narrow nobody.

The modes are intersected before a request is decided, and writing covers appending only then. Two
agents that may both append, one because it may write and the other because it may append, have no
mode in common that covers appending (`Service.delegated_grant_iff`).
-/

set_option autoImplicit false

namespace WebAccess

/-- Of two agents, one may write and not append, the other append and not write. -/
def ModeSet.Split (s t : ModeSet) : Prop :=
  (.write ∈ s ∧ .append ∉ s ∧ .append ∈ t ∧ .write ∉ t) ∨
    (.append ∈ s ∧ .write ∉ s ∧ .write ∈ t ∧ .append ∉ t)

/-- A mode is covered by itself, and appending by writing as well. -/
theorem permits_iff {granted : ModeSet} {m : Mode} :
    permits granted m = true ↔ m ∈ granted ∨ (m = .append ∧ .write ∈ granted) := by
  simp [permits]

/-- Split sets cover appending each by itself. -/
theorem ModeSet.Split.permits_append {s t : ModeSet} (h : s.Split t) :
    permits s .append = true ∧ permits t .append = true := by
  rw [permits_iff, permits_iff]
  rcases h with ⟨hsw, -, hta, -⟩ | ⟨hsa, -, htw, -⟩
  · exact ⟨.inr ⟨rfl, hsw⟩, .inl hta⟩
  · exact ⟨.inl hsa, .inr ⟨rfl, htw⟩⟩

/-- What both sets cover their intersection covers, but for appending where the sets are split. -/
theorem permits_inter_iff (s t : ModeSet) (m : Mode) :
    permits (s ∩ t) m = true ↔
      permits s m = true ∧ permits t m = true ∧ ¬(m = .append ∧ s.Split t) := by
  simp only [permits_iff, ModeSet.mem_inter, ModeSet.Split]
  by_cases hm : m = .append
  · subst hm
    by_cases hsw : Mode.write ∈ s <;> by_cases hsa : Mode.append ∈ s <;>
      by_cases htw : Mode.write ∈ t <;> by_cases hta : Mode.append ∈ t <;>
      simp [hsw, hsa, htw, hta]
  · simp [hm]

/-- Every set of modes is what it has in common with all modes. -/
@[simp] theorem ModeSet.all_inter (s : ModeSet) : ModeSet.all ∩ s = s :=
  ext fun m => by simp

/-- Two sets of modes have the same in common in either order. -/
theorem ModeSet.inter_comm (s t : ModeSet) : s ∩ t = t ∩ s :=
  ext fun m => by simp [and_comm]

/-- A set of modes is empty exactly if no mode is in it. -/
theorem ModeSet.isEmpty_iff {s : ModeSet} : s.isEmpty = true ↔ ∀ m, m ∉ s := by
  rw [isEmpty, beq_iff_eq]
  constructor
  · rintro rfl m
    exact not_mem_empty
  · exact fun h => ext fun m => iff_of_false (h m) not_mem_empty

/-- A request is granted exactly if the granted modes cover each mode that is required. -/
theorem isGranted_evaluate_iff {required granted : ModeSet} {anonymous : Bool} :
    (Decision.evaluate required granted anonymous).isGranted = true ↔
      ∀ m, m ∈ required → permits granted m = true := by
  have hmissing : (ModeSet.ofPred fun m => required.contains m && !permits granted m).isEmpty =
      true ↔ ∀ m, m ∈ required → permits granted m = true := by
    simp [ModeSet.isEmpty_iff, ModeSet.mem_iff]
  rw [← hmissing]
  cases h : (ModeSet.ofPred fun m => required.contains m && !permits granted m).isEmpty <;>
    cases anonymous <;> simp [Decision.evaluate, Decision.isGranted, Decision.verdict, h]

/-- A request requires one mode. -/
theorem mem_requiredModes {method : Method} {target : RequestTarget} {m : Mode} :
    m ∈ requiredModes method target ↔ m = requiredMode method target := by
  simp [requiredModes]

namespace Service

variable {store : Store} {config : ServiceConfig}

/-! ## What one agent holds and what two agents hold -/

/-- The modes that an agent holds by itself, as resolution yields them. -/
def heldModes (store : Store) (config : ServiceConfig) (id : Identifier) (agent : String) :
    Except Stop ModeSet :=
  if config.isAdministrator agent then .ok .all
  else (store.resolve config.anonymous id agent).answer >>= fun outcome => .ok outcome.modes

/-- Without a cache, what is looked up for an agent grants the modes that it holds by itself. -/
theorem modes_outcomeFor_uncached (now : Nat) (id : Identifier) (agent : String) :
    (outcomeFor store now id agent).answer (.new config none) >>=
        (fun outcome => .ok outcome.modes) = heldModes store config id agent := by
  rcases hadmin : config.isAdministrator agent with _ | _
  · rw [(outcomeFor_of_uncached hadmin rfl).1]
    simp [heldModes, hadmin]
  · rw [(outcomeFor_of_administrator hadmin).1]
    simp [heldModes, hadmin, Outcome.unrestricted]

/-- Without a cache, a session of an agent alone has the modes that the agent holds by itself. -/
theorem accessModes_new_uncached (now : Nat) (id : Identifier) (agent : String) :
    (accessModes store now id (.new agent)).answer (.new config none) =
      heldModes store config id agent := by
  rw [answer_accessModes, answer_authorizedModes]
  rcases hadmin : config.isAdministrator agent with _ | _
  · rw [← modes_outcomeFor_uncached now id agent]
    simp [lookups, narrowed, Session.new, hadmin]
  · simp [lookups, narrowed, Session.new, heldModes, hadmin, Outcome.unrestricted]

/-- A delegated session holds what both its agents hold by themselves; an administrator is not
narrowed. -/
theorem accessModes_delegatedBy_uncached (now : Nat) (id : Identifier) (agent delegate : String) :
    (accessModes store now id ((Session.new agent).delegatedBy delegate)).answer
        (.new config none) =
      if config.isAdministrator agent then .ok .all
      else
        heldModes store config id agent >>= fun own =>
          heldModes store config id delegate >>= fun others => .ok (own ∩ others) := by
  have hafter : (outcomeFor store now id agent).after (.new config none) = .new config none :=
    (grown_outcomeFor store now id agent _).eq_of_uncached rfl
  rw [answer_accessModes, answer_authorizedModes]
  rcases hadmin : config.isAdministrator agent with _ | _
  · simp only [← modes_outcomeFor_uncached now]
    rcases hown : (outcomeFor store now id agent).answer (.new config none) with stop | own
    · simp [lookups, narrowed, Session.new, Session.delegatedBy, hadmin, hown]
    · rcases hother : (outcomeFor store now id delegate).answer (.new config none) with _ | other
      <;> simp [lookups, narrowed, Session.new, Session.delegatedBy, hadmin, hown, hafter, hother,
          Outcome.restrict]
  · simp [lookups, narrowed, Session.new, Session.delegatedBy, hadmin, Outcome.unrestricted]

/-! ## Over a store that does not change -/

/-- The start of a run in a world with a single state: a service without a cache, or with an empty
one. -/
def Moment.fixed (config : ServiceConfig) (limits : Option CacheLimits) (now : Nat) :
    Moment Unit :=
  ⟨.new config (limits.map .empty), (), now⟩

/-- The modes of a session that a service answers after a run over a store that does not change. -/
def modesAfter (store : Store) (start : Moment Unit) (steps : List (Step Unit)) (id : Identifier)
    (session : Session) : Except Stop ModeSet :=
  let last := start.run (fun _ => store) steps
  (accessModes store last.now id session).answer last.service

/-- Over a store that does not change, a service answers after a run what one without a cache
answers. -/
theorem modesAfter_fixed (limits : Option CacheLimits) (now : Nat) (steps : List (Step Unit))
    (id : Identifier) (session : Session) :
    modesAfter store (.fixed config limits now) steps id session =
      (accessModes store ((Moment.fixed config limits now).run (fun _ => store) steps).now id
        session).answer (.new config none) := by
  have hstart : Faithful store (Moment.fixed config limits now).service := by
    rintro e ⟨c, hc, he⟩
    obtain ⟨l, -, rfl⟩ := Option.map_eq_some_iff.1 hc
    simp at he
  have hlast : Faithful store
      ((Moment.fixed config limits now).run (fun _ => store) steps).service :=
    Moment.faithful_run hstart fun _ _ => rfl
  have hplain : Faithful store (new config none) := faithful_of_uncached rfl
  have hconfig : ((Moment.fixed config limits now).run (fun _ => store) steps).service.config =
      config := Moment.config_run _ steps
  rw [modesAfter, answer_accessModes, answer_accessModes, answer_authorizedModes,
    answer_authorizedModes, hlast.lookups_eq hplain hconfig session]

/-- What a delegated session holds, after any run, from what its agents hold by themselves after
any runs: their intersection, unless the agent is an administrator, which holds every mode whatever
the delegate holds. Otherwise no mode comes from one agent alone, and if neither or both administer
it does not matter which of them acts for the other. -/
theorem delegated_modes {limits : Option CacheLimits} {now : Nat} {first second : List (Step Unit)}
    {id : Identifier} {agent delegate : String} {own others : ModeSet}
    (hown : modesAfter store (.fixed config limits now) first id (.new agent) = .ok own)
    (hothers : modesAfter store (.fixed config limits now) second id (.new delegate) = .ok others)
    (steps : List (Step Unit)) :
    let delegated := modesAfter store (.fixed config limits now) steps id
    delegated ((Session.new agent).delegatedBy delegate) =
        .ok (if config.isAdministrator agent then .all else own ∩ others) ∧
      (delegated ((Session.new agent).delegatedBy delegate) = .ok (own ∩ others) ↔
        config.isAdministrator agent = false ∨ others = .all) ∧
      (config.isAdministrator agent = false →
        ∀ modes, delegated ((Session.new agent).delegatedBy delegate) = .ok modes →
          ∀ m, m ∈ modes → m ∈ own ∧ m ∈ others) ∧
      (config.isAdministrator agent = config.isAdministrator delegate →
        delegated ((Session.new agent).delegatedBy delegate) =
          delegated ((Session.new delegate).delegatedBy agent)) := by
  intro delegated
  rw [modesAfter_fixed, accessModes_new_uncached] at hown hothers
  have hdelegated : ∀ a d, delegated ((Session.new a).delegatedBy d) =
      if config.isAdministrator a then .ok .all
      else
        heldModes store config id a >>= fun own =>
          heldModes store config id d >>= fun others => .ok (own ∩ others) := by
    intro a d
    exact (modesAfter_fixed limits now steps id _).trans (accessModes_delegatedBy_uncached _ id a d)
  rw [hdelegated, hdelegated, hown, hothers]
  rcases hadmin : config.isAdministrator agent with _ | _
  · refine ⟨rfl, by simp, fun _ modes hmodes m hm => ?_, fun hboth => ?_⟩
    · obtain rfl := Except.ok.inj hmodes
      exact ModeSet.mem_inter.1 hm
    · rw [← hboth]
      exact congrArg Except.ok (ModeSet.inter_comm own others)
  · have hall : own = .all := by simpa [heldModes, hadmin] using hown.symm
    refine ⟨rfl, ?_, by simp, fun hboth => by simp [← hboth]⟩
    simp [hall, eq_comm]

/-- A store with a resource to which `writer` may write and `adder` may append. -/
def inboxStore : Store :=
  Memory.toStore <| Memory.empty.put ⟨"/inbox", ∅, some <| Rdf.Graph.ofList
    [⟨.blank "write", Vocab.accessTo.iri, .iri "/inbox"⟩,
      ⟨.blank "write", Vocab.agent.iri, .iri "writer"⟩,
      ⟨.blank "write", Vocab.mode.iri, .iri Mode.write.iri⟩,
      ⟨.blank "append", Vocab.accessTo.iri, .iri "/inbox"⟩,
      ⟨.blank "append", Vocab.agent.iri, .iri "adder"⟩,
      ⟨.blank "append", Vocab.mode.iri, .iri Mode.append.iri⟩]⟩

/-- An administrator as delegate narrows nobody. -/
theorem writer_for_root_keeps_modes :
    let start := Moment.fixed plainConfig (some .default) 0
    let earlier := [Step.access "/inbox" (.new "writer"), .wait (.ofSeconds 1)]
    modesAfter inboxStore start [] "/inbox" (.new "writer") = .ok (.ofList [.write]) ∧
      modesAfter inboxStore start earlier "/inbox" (.new "root") = .ok .all ∧
      modesAfter inboxStore start earlier "/inbox" ((Session.new "writer").delegatedBy "root") =
        .ok (.ofList [.write]) := by
  intro start earlier
  have hown : modesAfter inboxStore start [] "/inbox" (.new "writer") = .ok (.ofList [.write]) := by
    cbv
  have hothers : modesAfter inboxStore start earlier "/inbox" (.new "root") = .ok .all := by cbv
  obtain ⟨hdelegated, -⟩ := delegated_modes hown hothers earlier
  exact ⟨hown, hothers, hdelegated.trans (by cbv)⟩

/-- An administrator that acts on behalf of somebody is not narrowed. -/
theorem root_for_adder_keeps_every_mode :
    let held := modesAfter inboxStore (.fixed plainConfig none 0) [] "/inbox"
    held (.new "root") = .ok .all ∧ held (.new "adder") = .ok (.ofList [.append]) ∧
      held ((Session.new "root").delegatedBy "adder") = .ok .all ∧
      held ((Session.new "root").delegatedBy "adder") ≠ .ok (.all ∩ .ofList [.append]) := by
  have hall : modesAfter inboxStore (.fixed plainConfig none 0) [] "/inbox"
      ((Session.new "root").delegatedBy "adder") = .ok .all := by cbv
  have hne : ModeSet.all ≠ .all ∩ .ofList [.append] := by decide
  exact ⟨by cbv, by cbv, hall, fun h => hne (Except.ok.inj (hall.symm.trans h))⟩

/-! ## Requests of a delegated session -/

/-- A request of a delegated session is granted exactly if it is granted to each of its agents by
itself, except where it is to append and of the two one may write and not append, the other append
and not write. There each agent by itself is granted the request and the delegated session is
refused it. -/
theorem delegated_grant_iff {now : Nat} {id : Identifier} {agent delegate : String}
    {method : Method} {target : RequestTarget} {alone other : Decision}
    (hordinary : config.isAdministrator agent = false)
    (halone : (check store now id (.new agent) method target).answer (.new config none) =
      .ok alone)
    (hother : (check store now id (.new delegate) method target).answer (.new config none) =
      .ok other) :
    ∃ own others together,
      (accessModes store now id (.new agent)).answer (.new config none) = .ok own ∧
      (accessModes store now id (.new delegate)).answer (.new config none) = .ok others ∧
      (check store now id ((Session.new agent).delegatedBy delegate) method target).answer
        (.new config none) = .ok together ∧
      (together.isGranted = true ↔ alone.isGranted = true ∧ other.isGranted = true ∧
        ¬(requiredMode method target = .append ∧ own.Split others)) ∧
      (requiredMode method target = .append → own.Split others →
        alone.isGranted = true ∧ other.isGranted = true ∧ together.isGranted = false) := by
  have hcheck : ∀ session, (check store now id session method target).answer (.new config none) =
      (accessModes store now id session).answer (.new config none) >>= fun modes =>
        .ok <| Decision.evaluate (requiredModes method target) modes
          (config.isAnonymous session.agent) := by
    intro session
    rw [answer_check, answer_accessModes]
    cases (authorizedModes store now id session).answer (.new config none) <;> rfl
  obtain ⟨own, hown, hgrant⟩ := bind_eq_ok.1 ((hcheck _).symm.trans halone)
  obtain ⟨others, hothers, hgrant'⟩ := bind_eq_ok.1 ((hcheck _).symm.trans hother)
  obtain rfl := Except.ok.inj hgrant
  obtain rfl := Except.ok.inj hgrant'
  have hboth : (accessModes store now id ((Session.new agent).delegatedBy delegate)).answer
      (.new config none) = .ok (own ∩ others) := by
    rw [accessModes_new_uncached] at hown hothers
    rw [accessModes_delegatedBy_uncached]
    simp [hordinary, hown, hothers]
  refine ⟨own, others, _, hown, hothers, by rw [hcheck, hboth]; rfl, ?_, ?_⟩
  · simp only [isGranted_evaluate_iff, mem_requiredModes, forall_eq]
    exact permits_inter_iff own others _
  · intro happend hsplit
    simp only [← Bool.not_eq_true, isGranted_evaluate_iff, mem_requiredModes, forall_eq, happend]
    obtain ⟨hown, hothers⟩ := hsplit.permits_append
    refine ⟨hown, hothers, fun htogether => ?_⟩
    obtain ⟨-, -, hnot⟩ := (permits_inter_iff own others _).1 htogether
    exact hnot ⟨rfl, hsplit⟩

/-- `writer` may write to the resource and `adder` may append to it. Posting needs no more than
either holds, yet what they hold is split, so `writer` may not post on behalf of `adder`. -/
theorem post_split_between_writer_and_adder :
    ∃ own others together,
      (accessModes inboxStore 0 "/inbox" (.new "writer")).answer (.new plainConfig none) = .ok own ∧
      (accessModes inboxStore 0 "/inbox" (.new "adder")).answer (.new plainConfig none) =
        .ok others ∧
      own.Split others ∧
      (check inboxStore 0 "/inbox" ((Session.new "writer").delegatedBy "adder") .post
        .resource).answer (.new plainConfig none) = .ok together ∧
      together.isGranted = false := by
  have halone : (check inboxStore 0 "/inbox" (.new "writer") .post .resource).answer
      (.new plainConfig none) = .ok .granted := by cbv
  have hother : (check inboxStore 0 "/inbox" (.new "adder") .post .resource).answer
      (.new plainConfig none) = .ok .granted := by cbv
  have hordinary : plainConfig.isAdministrator "writer" = false := by cbv
  obtain ⟨own, others, together, hown, hothers, hcheck, -, hrefused⟩ :=
    delegated_grant_iff hordinary halone hother
  have hwrites : (accessModes inboxStore 0 "/inbox" (.new "writer")).answer
      (.new plainConfig none) = .ok (.ofList [.write]) := by cbv
  have happends : (accessModes inboxStore 0 "/inbox" (.new "adder")).answer
      (.new plainConfig none) = .ok (.ofList [.append]) := by cbv
  obtain rfl := Except.ok.inj (hwrites.symm.trans hown)
  obtain rfl := Except.ok.inj (happends.symm.trans hothers)
  have hsplit : (ModeSet.ofList [.write]).Split (.ofList [.append]) := by
    simp [ModeSet.Split]
  obtain ⟨-, -, hnot⟩ := hrefused rfl hsplit
  exact ⟨_, _, together, hwrites, happends, hsplit, hcheck, hnot⟩

/-- `writer` and `adder` may both post to the resource, and neither may on behalf of the other. -/
theorem posting_refused_to_writer_for_adder :
    let decided := fun session =>
      (check inboxStore 0 "/inbox" session .post .resource).answer (.new plainConfig none)
    decided (.new "writer") = .ok .granted ∧ decided (.new "adder") = .ok .granted ∧
      decided ((Session.new "writer").delegatedBy "adder") = .ok (.forbidden (.ofList [.append])) ∧
      decided ((Session.new "adder").delegatedBy "writer") =
        .ok (.forbidden (.ofList [.append])) :=
  ⟨by cbv, by cbv, by cbv, by cbv⟩

end Service

end WebAccess
