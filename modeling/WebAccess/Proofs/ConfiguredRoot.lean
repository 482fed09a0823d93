import WebAccess.Proofs.Delegation
import WebAccess.Proofs.RootEffect

/-!
# Roots that identifiers come down to

The root of a configuration is any identifier, while the containers of an identifier are cut from
its path. Of the slashes at which it cuts, the cut keeps one: the slash behind the authority, or the
first one where there is no authority. A container never ends with a later slash. So what is put
together from a root and named segments comes back to the root exactly if the slash at the end of
the root is the one that is kept (`Identifier.path_extended_iff`), which is to say that no other
slash of the root could be kept before it (`Identifier.outermost_iff`). Below any other root the
chains of containers go past it, and the rules that the service gives it are never found.

Main statement: `Service.root_rules_reach_descendants_iff`.
-/

set_option autoImplicit false

namespace WebAccess

namespace Identifier

/-! ## The slash that ends a root -/

/-- A slash of the text at which a root can end: it stands behind a mark, if the text has one. -/
structure RootSlash (cs front back : List Char) : Prop where
  /-- The slash stands between the two parts. -/
  split : cs = front ++ '/' :: back
  /-- A mark of the text stands before it. -/
  behind : schemeMark <:+: cs → schemeMark <:+: front

/-- At most one slash of the root can end it, and that one stands at its end. -/
def Outermost (root : Identifier) : Prop :=
  ∀ front back, RootSlash root.toList front back → back = []

variable {cs front back top below : List Char}

/-- A text with a slash is cut behind this one or behind one before it. -/
theorem exists_splitSlash (front back : List Char) :
    ∃ upTo rest, splitSlash (front ++ '/' :: back) = some (upTo, rest) ∧
      upTo <+: front ++ ['/'] := by
  induction front with
  | nil => exact ⟨['/'], back, rfl, List.prefix_refl _⟩
  | cons c front ih =>
    obtain ⟨upTo, rest, hsplit, hprefix⟩ := ih
    rw [List.cons_append, splitSlash]
    by_cases hc : c = '/'
    · rw [if_pos hc]
      refine ⟨[c], front ++ '/' :: back, rfl, ?_⟩
      simp
    · rw [if_neg hc, hsplit]
      refine ⟨c :: upTo, rest, rfl, ?_⟩
      exact (List.prefix_cons_inj c).2 hprefix

/-- Where there is such a slash, a root is found, which ends with it or before. -/
theorem RootSlash.exists_splitRoot (h : RootSlash cs front back) :
    ∃ top below, splitRoot cs = some (top, below) ∧ top <+: front ++ ['/'] := by
  obtain ⟨rfl, hbehind⟩ := h
  cases hfront : splitScheme front with
  | none =>
    have hnone : ¬schemeMark <:+: front ++ '/' :: back :=
      fun hmark => splitScheme_eq_none_iff.1 hfront (hbehind hmark)
    obtain ⟨upTo, rest, hslash, hprefix⟩ := exists_splitSlash front back
    refine ⟨upTo, rest, ?_, hprefix⟩
    rw [splitRoot, splitScheme_eq_none_iff.2 hnone, hslash]
  | some p =>
    obtain ⟨marked, rest⟩ := p
    obtain ⟨upTo, left, hslash, hprefix⟩ := exists_splitSlash rest back
    refine ⟨marked ++ upTo, left, ?_, ?_⟩
    · have hscheme := splitScheme_of_splitScheme hfront (rest ++ '/' :: back)
      rw [← List.append_assoc, append_of_splitScheme hfront] at hscheme
      simp only [splitRoot, hscheme, hslash, Option.map_some]
    · rw [← append_of_splitScheme hfront, List.append_assoc]
      exact (List.prefix_append_right_inj marked).2 hprefix

/-- A root is cut off behind a slash at which a root can end. -/
theorem rootSlash_of_splitRoot (h : splitRoot cs = some (top, below)) :
    ∃ front, RootSlash cs front below := by
  have happend := append_of_splitRoot h
  unfold splitRoot at h
  cases hscheme : splitScheme cs with
  | none =>
    rw [hscheme] at h
    obtain ⟨before, -, rfl⟩ := exists_of_splitSlash h
    refine ⟨before, ?_, ?_⟩
    · simp [← happend]
    · exact fun hmark => absurd hmark (splitScheme_eq_none_iff.1 hscheme)
  | some p =>
    obtain ⟨marked, rest⟩ := p
    rw [hscheme, Option.map_eq_some_iff] at h
    obtain ⟨⟨upTo, left⟩, hslash, hp⟩ := h
    cases hp
    obtain ⟨before, -, rfl⟩ := exists_of_splitSlash hslash
    obtain ⟨scheme, rfl⟩ := exists_of_splitScheme hscheme
    refine ⟨scheme ++ schemeMark ++ before, ?_, ?_⟩
    · simp [← happend]
    · exact fun _ => ⟨scheme, before, rfl⟩

/-- No slash but the last can end a root exactly if nothing is left below the place where the root
is cut off. -/
theorem outermost_iff {root : Identifier} (h : splitRoot root.toList = some (top, below)) :
    Outermost root ↔ below = [] := by
  constructor
  · intro houtermost
    obtain ⟨front, hslash⟩ := rootSlash_of_splitRoot h
    exact houtermost front below hslash
  · rintro rfl front back hslash
    obtain ⟨top', below', hsplit, hprefix⟩ := hslash.exists_splitRoot
    obtain ⟨rfl, rfl⟩ := Prod.mk.inj (Option.some.inj (h.symm.trans hsplit))
    have hroot : root.toList = top := by rw [← append_of_splitRoot h, List.append_nil]
    have hlength := hprefix.length_le
    rw [← hroot, hslash.split] at hlength
    simp only [List.length_append, List.length_cons, List.length_nil] at hlength
    exact List.length_eq_zero_iff.1 (by omega)

/-! ## Named segments behind a root -/

/-- The text is the root with one or more named segments behind it. -/
inductive Extends (root : List Char) : List Char → Prop
  /-- One segment stands right behind the root. -/
  | child {segment : List Char} (hslash : '/' ∉ segment) (hnamed : segment ≠ []) :
    Extends root (root ++ segment)
  /-- A further segment stands behind a slash. -/
  | deeper {cs segment : List Char} (h : Extends root cs) (hslash : '/' ∉ segment)
    (hnamed : segment ≠ []) : Extends root (cs ++ '/' :: segment)

variable {root segment : List Char}

/-- What extends a root does not end with a slash. -/
theorem Extends.getLast?_ne (h : Extends root cs) : cs.getLast? ≠ some '/' := by
  cases h with
  | child hslash hnamed => exact getLast?_append_segment hslash hnamed root
  | deeper _ hslash hnamed =>
    rw [List.append_cons]
    exact getLast?_append_segment hslash hnamed _

/-- No mark is put together where segments are joined. -/
theorem Extends.schemeMark_isInfix (h : Extends root cs) (hmark : schemeMark <:+: cs) :
    schemeMark <:+: root := by
  induction h with
  | child hslash hnamed => exact schemeMark_isInfix_append hslash hmark
  | @deeper cs segment h hslash hnamed ih =>
    have hslashed : schemeMark <:+: cs ++ ['/'] := by
      rw [List.append_cons] at hmark
      exact schemeMark_isInfix_append hslash hmark
    exact ih (schemeMark_isInfix_concat h.getLast?_ne hslashed)

/-- What extends a root is the root and something more. -/
theorem Extends.exists_append (h : Extends root cs) : ∃ more, cs = root ++ more ∧ more ≠ [] := by
  induction h with
  | @child segment hslash hnamed => exact ⟨segment, rfl, hnamed⟩
  | @deeper cs segment h hslash hnamed ih =>
    obtain ⟨more, rfl, -⟩ := ih
    exact ⟨more ++ '/' :: segment, by rw [List.append_assoc], by simp⟩

/-- What extends a root is not the root itself. -/
theorem Extends.ofList_ne (h : Extends root cs) : String.ofList cs ≠ String.ofList root := by
  obtain ⟨more, rfl, hmore⟩ := h.exists_append
  simpa [String.ofList_inj] using hmore

/-- The container of a text with two or more segments is the text without the last one. -/
theorem Extends.parent?_deeper (h : Extends root cs) (hslash : '/' ∉ segment)
    (hnamed : segment ≠ []) (hroot : splitRoot root = some (top, below)) :
    parent? (String.ofList (cs ++ '/' :: segment)) = some (String.ofList cs) := by
  have hmark := (h.deeper hslash hnamed).schemeMark_isInfix
  obtain ⟨more, rfl, -⟩ := h.exists_append
  have happend := append_of_splitRoot hroot
  rw [List.append_assoc] at hmark ⊢
  have hsplit := splitRoot_append hroot hmark
  have hdrop := dropTrailingSlash_append_segment hslash hnamed (below ++ more ++ ['/'])
  have hpath : below ++ (more ++ '/' :: segment) = below ++ more ++ ['/'] ++ segment := by simp
  rw [hpath] at hsplit
  rw [parent?_ofList_eq_some hsplit (by rw [hdrop]; simp), hdrop, ← List.append_cons,
    beforeLastSlash_append hslash, ← happend, List.append_assoc]

/-- The container of a text with one segment is the root, if the root is all that the cut leaves;
else the root loses the slash at its end. -/
theorem parent?_child (hslash : '/' ∉ segment) (hnamed : segment ≠ [])
    (hroot : splitRoot root = some (top, below)) (hend : root.getLast? = some '/') :
    below = [] ∧ parent? (String.ofList (root ++ segment)) = some (String.ofList root) ∨
      ∃ before, below = before ++ ['/'] ∧
        parent? (String.ofList (root ++ segment)) = some (String.ofList (top ++ before)) := by
  have happend := append_of_splitRoot hroot
  have hsplit := splitRoot_append hroot fun hmark => schemeMark_isInfix_append hslash hmark
  have hdrop := dropTrailingSlash_append_segment hslash hnamed below
  have hparent := parent?_ofList_eq_some hsplit (by rw [hdrop]; simp [hnamed])
  rw [hdrop] at hparent
  rcases List.eq_nil_or_concat below with rfl | ⟨before, c, rfl⟩
  · left
    refine ⟨rfl, ?_⟩
    rw [hparent, List.nil_append, beforeLastSlash_of_segment hslash, happend]
  · right
    obtain rfl : c = '/' := by
      rw [← happend] at hend
      simpa [← List.append_assoc] using hend
    refine ⟨before, by simp, ?_⟩
    rw [hparent, List.concat_eq_append, ← List.append_cons, beforeLastSlash_append hslash]

/-- The chain of containers of segments behind a root leads to the root exactly if the root is all
that the cut leaves. -/
theorem path_extended_iff (hroot : splitRoot root = some (top, below))
    (hend : root.getLast? = some '/') (h : Extends root cs) :
    (∃ k, path parent? (String.ofList cs) k = some (String.ofList root)) ↔ below = [] := by
  induction h with
  | @child segment hslash hnamed =>
    have hne := (@Extends.child root segment hslash hnamed).ofList_ne
    rcases parent?_child hslash hnamed hroot hend with ⟨hbelow, hparent⟩ | ⟨before, hbelow, hparent⟩
    · rw [exists_path_of_some hparent hne]
      exact iff_of_true ⟨0, rfl⟩ hbelow
    · -- From here on every container is shorter than the root.
      rw [exists_path_of_some hparent hne]
      apply iff_of_false
      · rintro ⟨k, hk⟩
        have hlength := length_add_le_of_path_start hk
        rw [← append_of_splitRoot hroot, hbelow] at hlength
        simp only [String.length_ofList, List.length_append, List.length_cons,
          List.length_nil] at hlength
        omega
      · rw [hbelow]
        simp
  | @deeper cs segment h hslash hnamed ih =>
    have hne := (h.deeper hslash hnamed).ofList_ne
    rw [exists_path_of_some (h.parent?_deeper hslash hnamed hroot) hne, ih]

/-- Further segments behind a slash extend what extends a root. -/
theorem Extends.join (h : Extends root cs) {segments : List (List Char)} (hne : segments ≠ [])
    (hsegments : ∀ s ∈ segments, s ≠ [] ∧ '/' ∉ s) :
    Extends root (cs ++ '/' :: ['/'].intercalate segments) := by
  induction segments generalizing cs with
  | nil => exact absurd rfl hne
  | cons s segments ih =>
    obtain ⟨⟨hnamed, hslash⟩, hrest⟩ := List.forall_mem_cons.1 hsegments
    cases segments with
    | nil => simpa using h.deeper hslash hnamed
    | cons t segments =>
      have hjoined := ih (h.deeper hslash hnamed) (List.cons_ne_nil t segments) hrest
      simpa using hjoined

/-- A root with one or more named segments behind it extends the root. -/
theorem extends_intercalate {root : Identifier} {segments : List String} (hne : segments ≠ [])
    (hsegments : ∀ s ∈ segments, s ≠ "" ∧ '/' ∉ s.toList) :
    Extends root.toList (root ++ "/".intercalate segments).toList := by
  rw [String.toList_append, String.toList_intercalate]
  cases segments with
  | nil => exact absurd rfl hne
  | cons s segments =>
    obtain ⟨⟨hnamed, hslash⟩, hrest⟩ := List.forall_mem_cons.1 hsegments
    have hchild : Extends root.toList (root.toList ++ s.toList) :=
      .child hslash (by simpa using hnamed)
    cases segments with
    | nil => simpa using hchild
    | cons t segments =>
      have hrest' : ∀ s ∈ (t :: segments).map String.toList, s ≠ [] ∧ '/' ∉ s := by
        simpa using hrest
      simpa using hchild.join (by simp) hrest'

end Identifier

/-! ## A memory without rules -/

namespace Memory

open Identifier (path parent?)

variable {m : Memory} {root id w : Identifier} {k : Nat}

/-- A walk through a memory passes a resource without access-control graph. -/
theorem passedAt_of_unruled (h : m.Unruled w) (hpath : path parent? id k = some w) :
    m.toStore.PassedAt id k := by
  have hread : m.toStore.read w = .ok (m.find? w) := rfl
  apply Store.passedAt_of_rulesAt (s := m.toStore) hpath
  rw [Store.answer_rulesAt, hread]
  cases hfind : m.find? w with
  | none => rfl
  | some r => simp [Store.governing, h r hfind]

/-- Where there are no rules, a walk gets to all containers. -/
theorem reaches_of_unruled (h : ∀ w, m.Unruled w) (hpath : path parent? id k = some w) :
    m.toStore.Reaches id k w := by
  refine ⟨hpath, Identifier.unrepeated_parent? hpath, ?_⟩
  intro j hj
  obtain ⟨u, hu⟩ := Identifier.exists_path_of_le hpath (Nat.le_of_lt hj)
  exact passedAt_of_unruled (h u) hu

/-- In a memory without access-control graphs resolution denies everything. -/
theorem resolve_of_unruled (h : ∀ w, m.Unruled w) (anonymous agent : String) :
    (m.toStore.resolve anonymous id agent).answer = .ok .denied := by
  obtain ⟨k, e, hpath, hend⟩ := Identifier.exists_end id
  have hends : m.toStore.EndsAt id k e (.ok none) :=
    .top (passedAt_of_unruled (h e) hpath) (.inl hend)
  exact answer_resolve_of_endsAt (reaches_of_unruled h hpath) hends anonymous agent

/-- The rules of the root, written to a memory without any, open what has the root above it and
nothing else. -/
theorem HasOpened.resolve {after : Memory} (h : m.HasOpened after root) (hm : ∀ w, m.Unruled w)
    (anonymous agent : String) :
    ((∃ k, path parent? id k = some root) →
        (after.toStore.resolve anonymous id agent).answer = .ok ⟨some root, .all⟩) ∧
      ((¬∃ k, path parent? id k = some root) →
        (after.toStore.resolve anonymous id agent).answer = .ok .denied) := by
  constructor
  · rintro ⟨k, hk⟩
    exact h.opened id anonymous agent ⟨k, reaches_of_unruled hm hk⟩
  · intro hnot
    rw [h.unmoved id anonymous agent fun ⟨k, hk⟩ => hnot ⟨k, hk.reached⟩]
    exact resolve_of_unruled hm anonymous agent

end Memory

/-! ## The service -/

namespace Service

open Identifier (path parent? RootSlash Outermost)

variable {store : Store} {config : ServiceConfig} {id : Identifier}

/-- Where every agent holds every mode, so does every session. -/
theorem accessModes_uncached_of_all (h : ∀ agent, heldModes store config id agent = .ok .all)
    (now : Nat) (session : Session) :
    (accessModes store now id session).answer (.new config none) = .ok .all := by
  obtain ⟨agent, delegate⟩ := session
  cases delegate with
  | none => exact (accessModes_new_uncached now id agent).trans (h agent)
  | some delegate =>
    have hboth := @accessModes_delegatedBy_uncached store config now id agent delegate
    rw [h agent, h delegate] at hboth
    refine hboth.trans ?_
    split
    · rfl
    · exact congrArg Except.ok (ModeSet.all_inter .all)

/-- Over a memory without rules a service gives its root rules, and what is put together from the
root and named segments is opened to every session by them exactly if the slash at the end of the
root is the only one that can end it. Then the chain of containers leads to the root; else it goes
past it, and agents that do not administer hold nothing. -/
theorem root_rules_reach_descendants_iff {segments : List String}
    (hslash : ∃ front back, RootSlash config.root.toList front back)
    (hend : config.root.toList.getLast? = some '/') (hne : segments ≠ [])
    (hsegments : ∀ s ∈ segments, s ≠ "" ∧ '/' ∉ s.toList) :
    let id := config.root ++ "/".intercalate segments
    ((∃ k, path parent? id k = some config.root) ↔ Outermost config.root) ∧
      (config.initializeRoot = true → ∀ (memory : Memory) (now : Nat), (∀ w, memory.Unruled w) →
        let start : Moment Memory := ⟨.new config none, memory, now⟩
        let after := start.next Memory.toStore (.giveRules Memory.takeRules)
        start.reply Memory.toStore (.giveRules Memory.takeRules) = .written (.ok true) ∧
          (Outermost config.root → ∀ session,
            (accessModes after.world.toStore now id session).answer after.service = .ok .all) ∧
          (¬Outermost config.root → ∀ agent, config.isAdministrator agent = false →
            (accessModes after.world.toStore now id (.new agent)).answer after.service =
              .ok ∅)) := by
  intro id
  obtain ⟨front, back, hslash⟩ := hslash
  obtain ⟨top, below, hroot, -⟩ := hslash.exists_splitRoot
  have hchain : (∃ k, path parent? id k = some config.root) ↔ Outermost config.root := by
    have hextends := @Identifier.extends_intercalate config.root segments hne hsegments
    rw [Identifier.outermost_iff hroot, ← Identifier.path_extended_iff hroot hend hextends,
      String.ofList_toList, String.ofList_toList]
  refine ⟨hchain, ?_⟩
  intro hinit memory now hmemory start after
  obtain ⟨hreply, hnext⟩ := @Moment.giveRules_of_unruled start hinit (hmemory config.root)
  have hafter : after = ⟨.new config none, memory.writeRootRules config.root, now⟩ := hnext
  have hopened := memory.hasOpened_writeRootRules config.root
  have hresolve := fun agent => @Memory.HasOpened.resolve memory config.root id _ hopened hmemory
    config.anonymous agent
  rw [hafter]
  refine ⟨hreply, ?_, ?_⟩
  · intro houtermost
    apply accessModes_uncached_of_all
    intro agent
    unfold heldModes
    split
    · rfl
    · rw [(hresolve agent).1 (hchain.2 houtermost)]
      rfl
  · intro hinner agent hadmin
    rw [accessModes_new_uncached, heldModes, hadmin,
      (hresolve agent).2 fun hreached => hinner (hchain.1 hreached)]
    rfl

/-- The configuration in which the root of a host gets its rules. -/
def hostConfig : ServiceConfig := { openingConfig with root := "http://h/" }

/-- Everything below the root of a host is opened. -/
theorem host_root_opens_descendants :
    let start : Moment Memory := ⟨.new hostConfig none, ∅, 0⟩
    let after := start.next Memory.toStore (.giveRules Memory.takeRules)
    (hostConfig.validate = .ok () ∧ Outermost hostConfig.root) ∧
      (∃ k, path parent? "http://h/a/b" k = some "http://h/") ∧
      start.reply Memory.toStore (.giveRules Memory.takeRules) = .written (.ok true) ∧
      (accessModes after.world.toStore 0 "http://h/a/b" (.new "alice")).answer after.service =
        .ok .all := by
  intro start after
  have hroot : Identifier.splitRoot hostConfig.root.toList = some ("http://h/".toList, []) := by
    decide +kernel
  have houtermost : Outermost hostConfig.root := (Identifier.outermost_iff hroot).2 rfl
  have hsegments : ∀ s ∈ ["a", "b"], s ≠ "" ∧ '/' ∉ s.toList := by decide
  obtain ⟨hchain, hopens⟩ := @root_rules_reach_descendants_iff hostConfig ["a", "b"]
    ((Identifier.rootSlash_of_splitRoot hroot).imp fun _ hslash => ⟨_, hslash⟩) (by decide +kernel)
    (by decide) hsegments
  have hnothing : ∀ w, (∅ : Memory).Unruled w := by
    intro w r hr
    cases hr
  obtain ⟨hreply, hmodes, -⟩ := hopens rfl ∅ 0 hnothing
  exact ⟨⟨by decide +kernel, houtermost⟩, hchain.2 houtermost, hreply,
    hmodes houtermost (.new "alice")⟩

/-- A configuration whose root has a slash in front of the one at its end. -/
def innerConfig : ServiceConfig := { openingConfig with root := "/a/" }

/-- The configuration is accepted and its root ends with a slash, yet the containers of `/a/b` go
past it, and once the root has its rules `alice` holds nothing there, though every mode on the root
itself. -/
theorem inner_root_is_passed_by :
    let start : Moment Memory := ⟨.new innerConfig none, ∅, 0⟩
    let after := start.next Memory.toStore (.giveRules Memory.takeRules)
    innerConfig.validate = .ok () ∧ RootSlash innerConfig.root.toList [] "a/".toList ∧
      innerConfig.root.toList.getLast? = some '/' ∧
      (∀ k, path parent? (innerConfig.root ++ "/".intercalate ["b"]) k ≠ some innerConfig.root) ∧
      start.reply Memory.toStore (.giveRules Memory.takeRules) = .written (.ok true) ∧
      (accessModes after.world.toStore 0 "/a/b" (.new "alice")).answer after.service = .ok ∅ ∧
      (accessModes after.world.toStore 0 "/a/" (.new "alice")).answer after.service = .ok .all := by
  intro start after
  have hslash : RootSlash innerConfig.root.toList [] "a/".toList := by
    refine ⟨by decide +kernel, ?_⟩
    intro hmark
    exact absurd hmark (Identifier.splitScheme_eq_none_iff.1 (by decide +kernel))
  have hwritten : ((ensureRootRules start.world.toStore (Memory.takeRules start.world)).answer
      start.service >>= fun written => .ok written.isSome) = .ok true := by decide +kernel
  refine ⟨by decide +kernel, hslash, by decide +kernel, ?_, congrArg Reply.written hwritten,
    by decide +kernel, by decide +kernel⟩
  have htop : path parent? "/a/b" 2 = some "/" := by decide +kernel
  have hnone : parent? "/" = none := by decide +kernel
  intro k
  rcases Nat.lt_or_ge 2 k with hlt | hle
  · rw [show innerConfig.root ++ "/".intercalate ["b"] = "/a/b" by decide +kernel,
      Identifier.path_eq_none_of_lt htop hnone hlt]
    simp
  · have hplaces : ∀ j ≤ 2, path parent? (innerConfig.root ++ "/".intercalate ["b"]) j ≠
        some innerConfig.root := by decide +kernel
    exact hplaces k hle

end Service

end WebAccess
