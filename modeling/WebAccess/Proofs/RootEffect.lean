import WebAccess.Proofs.RootLag

/-!
# What giving the root its rules changes

A service may give the root its rules, once, by a writer. Four things can come of it: the service is
not to write, or the root has a graph already, and nothing happens; the root cannot be read or not
written to, and the fault is passed on; or the rules are written. Only the last leaves another
moment behind (`Service.Moment.giveRules_of_some`), so faults cost neither a remembered outcome nor
a resource.

Over a memory the last is told in full (`Memory.HasOpened`): the root keeps its content, the other
resources stay, and resolution changes exactly where the walk gets up to the root.

Main statement: `Service.Moment.effect_of_giving_rules`.
-/

set_option autoImplicit false

namespace WebAccess

/-! ## The memory -/

/-- The memory `after` is `before` with the rules of the root, as far as reading and resolution can
tell. -/
structure Memory.HasOpened (before after : Memory) (root : Identifier) : Prop where
  /-- The root has its rules and the content it had, none if it was missing. -/
  written : after.find? root =
    some ⟨root, ((before.find? root).getD (.new root)).content, some (Service.rootRules root)⟩
  /-- No other resource changed. -/
  kept : ∀ id, id ≠ root → after.find? id = before.find? id
  /-- A walk that got up to the root finds the rules. -/
  opened : ∀ id anonymous agent, (∃ k, before.toStore.Reaches id k root) →
    (after.toStore.resolve anonymous id agent).answer = .ok ⟨some root, .all⟩
  /-- Any other walk answers what it answered before. -/
  unmoved : ∀ id anonymous agent, (¬∃ k, before.toStore.Reaches id k root) →
    (after.toStore.resolve anonymous id agent).answer =
      (before.toStore.resolve anonymous id agent).answer

/-- Writing the rules of a root opens it. -/
theorem Memory.hasOpened_writeRootRules (m : Memory) (root : Identifier) :
    m.HasOpened (m.writeRootRules root) root where
  written := find?_writeAcl_self m root (Service.rootRules root)
  kept _ hne := find?_writeAcl_of_ne m (Service.rootRules root) hne
  opened _ anonymous agent h := by
    obtain ⟨k, hk⟩ := h
    exact resolve_writeRootRules_of_reaches hk anonymous agent
  unmoved _ anonymous agent h := resolve_writeRootRules_of_not_reaches h anonymous agent

namespace Service

/-! ## Faults of the root -/

section Written

variable {σ : Type} {store : Store} {write : Identifier → Rdf.Graph → Except Fault σ}
  {config : ServiceConfig} {fault : Fault}

/-- Writing rules for the root comes to a fault. -/
inductive RootFault (store : Store) (write : Identifier → Rdf.Graph → Except Fault σ)
    (root : Identifier) (fault : Fault) : Prop
  /-- The root cannot be read, so it is not written to. -/
  | unread (hread : store.read root = .error fault)
  /-- The root has no graph and cannot be written to. -/
  | unwritten {found : Option Resource} (hread : store.read root = .ok found)
    (hacl : found.any (·.hasAcl) = false) (hwrite : write root (rootRules root) = .error fault)

/-- For the root, neither the store nor the writer answers that the configuration is at fault for
this reason:

* `read`: reading the root does not end in that fault;
* `write`: writing its rules does not end in that fault.

The specification documents this in section 7, on the design of errors. There the fault of the
configuration is the one that the check of a configuration raises; what goes wrong in a look-up, in
a group or in the writing of rules has a kind of its own. -/
structure BlamesNoConfig (store : Store) (write : Identifier → Rdf.Graph → Except Fault σ)
    (root : Identifier) (reason : String) : Prop where
  read : store.read root ≠ .error (.config reason)
  write : write root (rootRules root) ≠ .error (.config reason)

/-- Where store and writer blame no configuration, giving the root its rules does not either. -/
theorem BlamesNoConfig.not_rootFault {root : Identifier} {reason : String}
    (h : BlamesNoConfig store write root reason) :
    ¬RootFault store write root (.config reason) := by
  intro hroot
  cases hroot with
  | unread hread => exact h.read hread
  | unwritten _ _ hwrite => exact h.write hwrite

/-- Writing rules for the root answers, or it comes to a fault of the root. -/
theorem rootRulesWritten_cases (store : Store)
    (write : Identifier → Rdf.Graph → Except Fault σ) (config : ServiceConfig) :
    (∃ written, rootRulesWritten store write config = .ok written) ∨
      ∃ fault, rootRulesWritten store write config = .error (.failed fault) ∧
        config.initializeRoot = true ∧ RootFault store write config.root fault := by
  rcases hinit : config.initializeRoot with _ | _
  · exact .inl ⟨none, rootRulesWritten_of_off hinit⟩
  · cases hread : store.read config.root with
    | error fault => exact .inr ⟨fault, rootRulesWritten_of_unread hinit hread, rfl, .unread hread⟩
    | ok found =>
      rw [rootRulesWritten_of_read hinit hread]
      cases hacl : found.any (·.hasAcl) with
      | true => exact .inl ⟨none, rfl⟩
      | false =>
        cases hwrite : write config.root (rootRules config.root) with
        | error fault => exact .inr ⟨fault, rfl, rfl, .unwritten hread hacl hwrite⟩
        | ok written => exact .inl ⟨some written, rfl⟩

/-- A service that is to give the root its rules stops with a fault of the root. -/
theorem rootRulesWritten_of_fault (hinit : config.initializeRoot = true)
    (h : RootFault store write config.root fault) :
    rootRulesWritten store write config = .error (.failed fault) := by
  cases h with
  | unread hread => exact rootRulesWritten_of_unread hinit hread
  | unwritten hread hacl hwrite =>
    rw [rootRulesWritten_of_read hinit hread, hacl, hwrite]
    rfl

end Written

namespace Moment

variable {σ : Type} {view : σ → Store} {write : σ → Identifier → Rdf.Graph → Except Fault σ}
  {m : Moment σ} {fault : Fault}

/-- The reply to giving the root its rules tells whether they were written. -/
theorem reply_giveRules (m : Moment σ) : m.reply view (.giveRules write) =
    .written (rootRulesWritten (m.store view) (write m.world) m.service.config >>= fun written =>
      .ok written.isSome) := by
  rw [reply, (ensureRootRules_eq _ _ _).1]

/-- A moment at which no rules are written is left as it is, the remembered outcomes included. -/
theorem next_giveRules_of_not_rewritten (h : m.rewritten view write = none) :
    m.next view (.giveRules write) = m := by
  simp [next, after_ensureRootRules, h]

/-- A step that stops while it gives the root its rules changes nothing. -/
theorem giveRules_of_error {stop : Stop}
    (h : rootRulesWritten (m.store view) (write m.world) m.service.config = .error stop) :
    m.reply view (.giveRules write) = .written (.error stop) ∧
      m.next view (.giveRules write) = m := by
  constructor
  · rw [reply_giveRules, h, error_bind]
  · apply next_giveRules_of_not_rewritten
    rw [rewritten, h]

/-- A step that has no rules to give changes nothing. -/
theorem giveRules_of_none
    (h : rootRulesWritten (m.store view) (write m.world) m.service.config = .ok none) :
    m.reply view (.giveRules write) = .written (.ok false) ∧
      m.next view (.giveRules write) = m := by
  constructor
  · rw [reply_giveRules, h]
    rfl
  · apply next_giveRules_of_not_rewritten
    rw [rewritten, h]

/-- Where rules are written, the world is the one that the writer leaves, and the outcomes of the
root are dropped. -/
theorem giveRules_of_some {world : σ}
    (h : rootRulesWritten (m.store view) (write m.world) m.service.config = .ok (some world)) :
    m.reply view (.giveRules write) = .written (.ok true) ∧
      m.next view (.giveRules write) =
        { m with service := m.service.invalidate m.service.config.root, world } := by
  have hrewritten : m.rewritten view write = some world := by rw [rewritten, h]
  constructor
  · rw [reply_giveRules, h]
    rfl
  · simp [next, after_ensureRootRules, hrewritten]

/-! ## Over a memory -/

variable {m : Moment Memory}

/-- Where the root has a graph, or is not to be given rules, the step changes nothing. -/
theorem giveRules_of_ruled
    (h : m.service.config.initializeRoot = false ∨ ¬m.world.Unruled m.service.config.root) :
    m.reply Memory.toStore (.giveRules Memory.takeRules) = .written (.ok false) ∧
      m.next Memory.toStore (.giveRules Memory.takeRules) = m := by
  apply giveRules_of_none
  rw [store, rootRulesWritten_takeRules, if_neg]
  rintro ⟨hinit, hunruled⟩
  rcases h with hoff | hruled
  · exact Bool.false_ne_true (hoff.symm.trans hinit)
  · exact hruled hunruled

/-- Where the root is to be given rules and has no graph, the step writes them and drops the
outcomes of the root. -/
theorem giveRules_of_unruled (hinit : m.service.config.initializeRoot = true)
    (hunruled : m.world.Unruled m.service.config.root) :
    m.reply Memory.toStore (.giveRules Memory.takeRules) = .written (.ok true) ∧
      m.next Memory.toStore (.giveRules Memory.takeRules) =
        { m with
          service := m.service.invalidate m.service.config.root
          world := m.world.writeRootRules m.service.config.root } := by
  apply giveRules_of_some
  rw [store, rootRulesWritten_takeRules, if_pos ⟨hinit, hunruled⟩]

/-- Giving the root its rules, over a memory: where the service is not to write or the root has a
graph, nothing changes; otherwise the rules are written once, and the memory is opened by them and
by nothing else. Over any other world and with any writer, a fault of reading the root or of writing
to it is the answer, and the moment stays as it is. -/
theorem effect_of_giving_rules (m : Moment Memory) :
    let root := m.service.config.root
    let after := m.next Memory.toStore (.giveRules Memory.takeRules)
    ((m.service.config.initializeRoot = false ∨ ¬m.world.Unruled root) →
      m.reply Memory.toStore (.giveRules Memory.takeRules) = .written (.ok false) ∧ after = m) ∧
    (m.service.config.initializeRoot = true → m.world.Unruled root →
      m.reply Memory.toStore (.giveRules Memory.takeRules) = .written (.ok true) ∧
        after.service = m.service.invalidate root ∧ m.world.HasOpened after.world root ∧
        after.reply Memory.toStore (.giveRules Memory.takeRules) = .written (.ok false)) ∧
    ∀ (σ : Type) (view : σ → Store) (write : σ → Identifier → Rdf.Graph → Except Fault σ)
      (other : Moment σ) (fault : Fault), other.service.config.initializeRoot = true →
      RootFault (other.store view) (write other.world) other.service.config.root fault →
        other.reply view (.giveRules write) = .written (.error (.failed fault)) ∧
          other.next view (.giveRules write) = other := by
  intro root after
  refine ⟨giveRules_of_ruled, ?_, ?_⟩
  · intro hinit hunruled
    obtain ⟨hreply, hnext⟩ := giveRules_of_unruled hinit hunruled
    have hafter : after = _ := hnext
    refine ⟨hreply, ?_, ?_, ?_⟩
    · rw [hafter]
    · rw [hafter]
      exact m.world.hasOpened_writeRootRules root
    · have hruled : ¬after.world.Unruled after.service.config.root := by
        rw [hafter]
        exact Memory.not_unruled_writeAcl m.world root (rootRules root)
      exact (giveRules_of_ruled (.inr hruled)).1
  · intro σ view write other fault hinit hfault
    exact giveRules_of_error (rootRulesWritten_of_fault hinit hfault)

/-- A service over a memory in which the root has content and no rules, and the staff may read what
is below `/a`. -/
def closedRoot : Moment Memory where
  service := .new openingConfig (some (.empty .default))
  world := Store.staffStore.memory.put
    ⟨"/", Rdf.Graph.ofList [⟨.iri "/", Vocab.type.iri, .iri "/home"⟩], none⟩
  now := 0

/-- The same service over an overlay in which the root cannot be read. -/
def unreadRoot : Moment Overlay where
  service := closedRoot.service
  world := { Overlay.ofMemory closedRoot.world with readFaults := [("/", "offline")] }
  now := 0

/-- Everything is granted at `/x` from then on; below `/a` the staff may read as before; a second
attempt writes nothing. A root that cannot be read stops the first attempt. -/
theorem closed_root_opens :
    let after := closedRoot.next Memory.toStore (.giveRules Memory.takeRules)
    (closedRoot.service.config.initializeRoot = true ∧ closedRoot.world.Unruled "/") ∧
      closedRoot.reply Memory.toStore (.giveRules Memory.takeRules) = .written (.ok true) ∧
      (after.world.toStore.resolve "nobody" "/x" "bob").answer = .ok ⟨some "/", .all⟩ ∧
      (after.world.toStore.resolve "nobody" "/a/b" "alice").answer =
        (closedRoot.world.toStore.resolve "nobody" "/a/b" "alice").answer ∧
      after.reply Memory.toStore (.giveRules Memory.takeRules) = .written (.ok false) ∧
      unreadRoot.reply Overlay.toStore (.giveRules Overlay.writeAcl) =
        .written (.error (.failed (.lookup "/" "offline"))) ∧
      unreadRoot.next Overlay.toStore (.giveRules Overlay.writeAcl) = unreadRoot := by
  intro after
  have hunruled : closedRoot.world.Unruled "/" := by decide +kernel
  have hread : (unreadRoot.store Overlay.toStore).read "/" = .error (.lookup "/" "offline") := rfl
  obtain ⟨-, heffect, hfaults⟩ := effect_of_giving_rules closedRoot
  obtain ⟨hreply, -, hopened, hagain⟩ := heffect rfl hunruled
  have hstopped := hfaults Overlay Overlay.toStore Overlay.writeAcl unreadRoot _ rfl (.unread hread)
  have hreached : ∃ k, closedRoot.world.toStore.Reaches "/x" k "/" := by
    have hmem : "/" ∈ (closedRoot.world.toStore.search true [] "/x" 2).reads := by decide +kernel
    obtain ⟨k, -, hk⟩ := Store.mem_reads_search.1 hmem
    exact ⟨k, hk⟩
  have hnever : ¬∃ k, closedRoot.world.toStore.Reaches "/a/b" k "/" := by
    rintro ⟨k, hk⟩
    have hfinished : (closedRoot.world.toStore.search true [] "/a/b" 4).answer ≠
        .error .unfinished := by decide +kernel
    have hmem : "/" ∉ (closedRoot.world.toStore.search true [] "/a/b" 4).reads := by decide +kernel
    exact hmem (Store.mem_reads_search.2 ⟨k, hk.le_of_finished hfinished, hk⟩)
  exact ⟨⟨rfl, hunruled⟩, hreply, hopened.opened "/x" "nobody" "bob" hreached,
    hopened.unmoved "/a/b" "nobody" "alice" hnever, hagain, hstopped⟩

end Moment
end Service
end WebAccess
