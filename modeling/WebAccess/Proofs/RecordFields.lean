import WebAccess.Document.Decode
import WebAccess.Proofs.Answers

/-!
# Fields of decoded records

A record is decoded by going through the document and filling a draft. Seen from one field, the
order does not matter: its part of the draft is what the document has under its key, or, in a
sequence, at its index, and it stays empty if the document has nothing there
(`Document.Record.exists_draft`). That takes a draft in which the fields do not touch each other's
parts (`Document.Record.Stores`).
-/

set_option autoImplicit false

namespace WebAccess

namespace Document

namespace Tree

/-- The part of a record for one of its fields. -/
def field? (t : Tree) (key : String) (index : Nat) : Option Tree :=
  match t with
  | .map entries _ => entries.lookup key
  | .seq items _ => items[index]?
  | _ => none

/-- The part of a document that fields lead to, each given by its key and its index. -/
def under? (t : Tree) : List (String × Nat) → Option Tree
  | [] => some t
  | (key, index) :: place => (t.field? key index).bind fun u => u.under? place

/-- What is decoded under a place is the value; if there is nothing, the value is the one to fall
back on. -/
def Gives {β : Type} (t : Tree) (place : List (String × Nat)) (decode : Tree → Decoded β)
    (fallback value : β) : Prop :=
  match t.under? place with
  | some u => decode u = .ok value
  | none => value = fallback

variable {β γ : Type} {t : Tree} {place inner : List (String × Nat)}

/-- What is found under two places in sequence is found under the second within what is under the
first. -/
theorem under?_append :
    t.under? (place ++ inner) = (t.under? place).bind fun u => u.under? inner := by
  induction place generalizing t with
  | nil => rfl
  | cons step place ih =>
    obtain ⟨key, index⟩ := step
    rw [List.cons_append, under?, under?, Option.bind_assoc]
    congr 1
    funext u
    exact ih

/-- What is given under a place is given further down if what stands there passes it on. -/
theorem Gives.down {decode : Tree → Decoded β} {decode' : Tree → Decoded γ} {fallback value : β}
    (f : β → γ) (h : t.Gives place decode fallback value)
    (hinner : ∀ u, decode u = .ok value → u.Gives inner decode' (f fallback) (f value)) :
    t.Gives (place ++ inner) decode' (f fallback) (f value) := by
  unfold Gives at h ⊢
  rw [under?_append]
  rcases hunder : t.under? place with _ | u
  · rw [hunder] at h
    exact congrArg f h
  · rw [hunder] at h
    exact hinner u h

/-- Under a place a document gives one value. -/
theorem Gives.unique {decode : Tree → Decoded β} {fallback value value' : β}
    (h : t.Gives place decode fallback value) (h' : t.Gives place decode fallback value') :
    value = value' := by
  unfold Gives at h h'
  rcases hunder : t.under? place with _ | u
  · rw [hunder] at h h'
    exact h.trans h'.symm
  · rw [hunder] at h h'
    exact Except.ok.inj (h.symm.trans h')

/-- What to fall back on matters only where nothing is given. -/
theorem Gives.change_fallback_iff {decode : Tree → Decoded β} {fallback fallback' value : β}
    (h : t.Gives place decode fallback value) :
    t.Gives place decode fallback' value ↔ (t.under? place = none → fallback' = fallback) := by
  unfold Gives at h ⊢
  rcases hunder : t.under? place with _ | u
  · rw [hunder] at h
    obtain rfl : value = fallback := h
    constructor
    · intro hvalue _
      exact hvalue.symm
    · intro hsame
      exact (hsame rfl).symm
  · rw [hunder] at h
    exact iff_of_true h nofun

/-- What is decoded under a place may be mapped, if the value to fall back on is. -/
theorem Gives.map {decode : Tree → Decoded β} {fallback value : β} (f : β → γ)
    (h : t.Gives place decode fallback value) :
    t.Gives place (fun u => (decode u).map f) (f fallback) (f value) := by
  unfold Gives at h ⊢
  rcases hunder : t.under? place with _ | u
  · rw [hunder] at h
    exact congrArg f h
  · rw [hunder] at h
    exact map_eq_ok.2 ⟨value, h, rfl⟩

end Tree

variable {δ α β : Type}

/-- Reading the field leaves alone what `get` shows of a draft, and it is not the field `name`. -/
def Field.Spares (f : Field δ) (name : String) (get : δ → Option β) : Prop :=
  f.name ≠ name ∧ ∀ t d d', f.read t d = .ok d' → get d' = get d

/-- A field spares a part of a draft that storing its value does not change. -/
theorem Field.spares_of {name other : String} {optional : Bool} {get : δ → Option β}
    {get' : δ → Option α} {set : δ → α → δ} {decode : Tree → Decoded α} (hname : other ≠ name)
    (hget : ∀ d v, get (set d v) = get d) :
    (Field.of other optional get' set decode).Spares name get := by
  refine ⟨hname, ?_⟩
  intro t d d' h
  obtain ⟨v, -, rfl⟩ := map_eq_ok.1 h
  exact hget d v

/-- The part of a draft is what a document says: it holds what is decoded, or nothing. -/
def Filled (part : Option Tree) (decode : Tree → Decoded β) (value : Option β) : Prop :=
  match part with
  | some u => ∃ v, decode u = .ok v ∧ value = some v
  | none => value = none

namespace Record

/-- The field at an index puts what it decodes into a part of the draft that no other field
touches. -/
structure Stores (r : Record δ α) (index : Nat) (name : String) (get : δ → Option β)
    (decode : Tree → Decoded β) : Prop where
  /-- The field. -/
  field : ∃ optional set, r.fields[index]? = some (.of name optional get set decode) ∧
    ∀ d v, get (set d v) = some v
  /-- The other fields. -/
  others : ∀ f ∈ r.fields.eraseIdx index, f.Spares name get
  /-- At the start the part is empty. -/
  start : get r.start = none
  /-- The key is not the one under which a date is read. -/
  name_ne : name ≠ "$__toml_private_datetime"

/-- A field is the one at the index, or one of the others. -/
theorem eq_or_mem_eraseIdx {fields : List (Field δ)} {index : Nat} {field f : Field δ}
    (hfield : fields[index]? = some field) (hf : f ∈ fields) :
    f = field ∨ f ∈ fields.eraseIdx index := by
  induction fields generalizing index with
  | nil => exact absurd hf List.not_mem_nil
  | cons first fields ih =>
    cases index with
    | zero =>
      obtain rfl := Option.some.inj hfield
      exact List.mem_cons.1 hf
    | succ index =>
      rw [List.eraseIdx_cons_succ, List.mem_cons]
      rcases List.mem_cons.1 hf with rfl | hf
      · exact .inr (.inl rfl)
      · rcases ih hfield hf with h | h
        · exact .inl h
        · exact .inr (.inr h)

section Map

variable {r : Record δ α} {name : String} {get : δ → Option β} {decode : Tree → Decoded β}
variable {optional : Bool} {set : δ → β → δ}

/-- One entry of a map: it is passed over, or read by a field that has its key and was not given
before. -/
theorem readEntries_cons {key : String} {t : Tree} {rest : List (String × Tree)} {d d' : δ}
    (h : r.readEntries ((key, t) :: rest) d = .ok d') :
    ((∀ f ∈ r.fields, f.name ≠ key) ∧ r.readEntries rest d = .ok d') ∨
      ∃ f ∈ r.fields, f.name = key ∧ f.isGiven d = false ∧
        ∃ d₁, f.read t d = .ok d₁ ∧ r.readEntries rest d₁ = .ok d' := by
  rw [readEntries] at h
  rcases hfind : r.fields.find? fun f => f.name = key with _ | f
  · left
    have hnone : ∀ f ∈ r.fields, f.name ≠ key := by simpa using hfind
    rcases hstrict : r.strict with _ | _
    · simp only [hfind, hstrict, Bool.false_eq_true, if_false] at h
      obtain ⟨-, -, hrest⟩ := bind_eq_ok.1 h
      exact ⟨hnone, hrest⟩
    · simp [hfind, hstrict] at h
  · right
    have hname : f.name = key := by simpa using List.find?_some hfind
    rcases hgiven : f.isGiven d with _ | _
    · simp only [hfind, hgiven, Bool.false_eq_true, if_false] at h
      obtain ⟨d₁, hread, hrest⟩ := bind_eq_ok.1 h
      exact ⟨f, List.mem_of_find?_eq_some hfind, hname, hgiven, d₁, hread, hrest⟩
    · simp [hfind, hgiven] at h

/-- A field that was given is not given again. -/
theorem readEntries_of_given (hfields : ∀ f ∈ r.fields,
      f = .of name optional get set decode ∨ f.Spares name get)
    {entries : List (String × Tree)} {d d' : δ} (h : r.readEntries entries d = .ok d')
    (hd : (get d).isSome = true) : get d' = get d := by
  induction entries generalizing d with
  | nil =>
    obtain rfl := Except.ok.inj h
    rfl
  | cons entry rest ih =>
    obtain ⟨key, t⟩ := entry
    rcases readEntries_cons h with ⟨-, hrest⟩ | ⟨f, hf, -, hgiven, d₁, hread, hrest⟩
    · exact ih hrest hd
    · rcases hfields f hf with rfl | hspares
      · exact absurd (hgiven.symm.trans hd) Bool.false_ne_true
      · have hsame : get d₁ = get d := hspares.2 t d d₁ hread
        rw [← hsame] at hd ⊢
        exact ih hrest hd

/-- What a map says of a field is the first entry under its key. -/
theorem filled_readEntries (hmem : Field.of name optional get set decode ∈ r.fields)
    (hset : ∀ d v, get (set d v) = some v)
    (hfields : ∀ f ∈ r.fields, f = .of name optional get set decode ∨ f.Spares name get)
    {entries : List (String × Tree)} {d d' : δ} (h : r.readEntries entries d = .ok d')
    (hd : get d = none) : Filled (entries.lookup name) decode (get d') := by
  induction entries generalizing d with
  | nil =>
    obtain rfl := Except.ok.inj h
    exact hd
  | cons entry rest ih =>
    obtain ⟨key, t⟩ := entry
    rw [List.lookup_cons]
    rcases readEntries_cons h with ⟨hnone, hrest⟩ | ⟨f, hf, hkey, -, d₁, hread, hrest⟩
    · have hne : (name == key) = false := beq_eq_false_iff_ne.2 (hnone _ hmem)
      rw [hne]
      exact ih hrest hd
    · rcases hfields f hf with rfl | hspares
      · obtain rfl : name = key := hkey
        rw [beq_self_eq_true]
        obtain ⟨v, hv, rfl⟩ := map_eq_ok.1 hread
        refine ⟨v, hv, ?_⟩
        rw [readEntries_of_given hfields hrest (by rw [hset]; rfl), hset]
      · have hne : (name == key) = false :=
          beq_eq_false_iff_ne.2 (hkey ▸ hspares.1.symm)
        rw [hne]
        exact ih hrest ((hspares.2 t d d₁ hread).trans hd)

end Map

section Sequence

variable {name : String} {get : δ → Option β} {decode : Tree → Decoded β} {origin : Origin}
variable {fields : List (Field δ)}

/-- Without items a draft stays as it is. -/
theorem readItems_nil {ending : Ending} {d d' : δ}
    (h : readItems origin fields [] ending d = .ok d') : d' = d := by
  have hend : (finish ending >>= fun _ =>
      if fields.all (·.optional) then Except.ok d else .error .malformed) = .ok d' := by
    rcases fields with _ | ⟨f, fields⟩ <;> exact h
  obtain ⟨_, -, hrest⟩ := bind_eq_ok.1 hend
  split at hrest
  · exact (Except.ok.inj hrest).symm
  · simp at hrest

/-- Fields that all spare a part of a draft leave it as it is. -/
theorem readItems_of_spares (hspares : ∀ f ∈ fields, f.Spares name get) {items : List Tree}
    {ending : Ending} {d d' : δ} (h : readItems origin fields items ending d = .ok d') :
    get d' = get d := by
  induction fields generalizing items d with
  | nil =>
    rcases items with _ | ⟨t, rest⟩
    · rw [readItems_nil h]
    · rw [readItems] at h
      split at h
      · rw [Except.ok.inj h]
      · simp at h
  | cons f fields ih =>
    rcases items with _ | ⟨t, rest⟩
    · rw [readItems_nil h]
    · obtain ⟨d₁, hread, hrest⟩ := bind_eq_ok.1 h
      have hf := (hspares f List.mem_cons_self).2 t d d₁ hread
      rw [ih (fun g hg => hspares g (List.mem_cons_of_mem f hg)) hrest, hf]

/-- What a sequence says of a field is the item at its index. -/
theorem filled_readItems {index : Nat} {optional : Bool} {set : δ → β → δ}
    (hfield : fields[index]? = some (.of name optional get set decode))
    (hset : ∀ d v, get (set d v) = some v)
    (hothers : ∀ f ∈ fields.eraseIdx index, f.Spares name get) {items : List Tree}
    {ending : Ending} {d d' : δ} (h : readItems origin fields items ending d = .ok d')
    (hd : get d = none) : Filled items[index]? decode (get d') := by
  induction fields generalizing index items d with
  | nil => simp at hfield
  | cons f fields ih =>
    rcases items with _ | ⟨t, rest⟩
    · rw [readItems_nil h]
      exact hd
    · obtain ⟨d₁, hread, hrest⟩ := bind_eq_ok.1 h
      cases index with
      | zero =>
        obtain rfl := Option.some.inj hfield
        obtain ⟨v, hv, rfl⟩ := map_eq_ok.1 hread
        refine ⟨v, hv, ?_⟩
        rw [readItems_of_spares hothers hrest, hset]
      | succ index =>
        rw [List.eraseIdx_cons_succ] at hothers
        have hf := (hothers f List.mem_cons_self).2 t d d₁ hread
        exact ih hfield (fun g hg => hothers g (List.mem_cons_of_mem f hg)) hrest (hf.trans hd)

end Sequence

/-- The part that a field stores to is filled with what a map has under its key. -/
theorem Stores.filled_readEntries {r : Record δ α} {index : Nat} {name : String}
    {get : δ → Option β} {decode : Tree → Decoded β} (hstores : r.Stores index name get decode)
    {entries : List (String × Tree)} {d : δ} (h : r.readEntries entries r.start = .ok d) :
    Filled (entries.lookup name) decode (get d) := by
  obtain ⟨optional, set, hfield, hset⟩ := hstores.field
  refine Record.filled_readEntries (List.mem_of_getElem? hfield) hset ?_ h hstores.start
  intro f hf
  exact (eq_or_mem_eraseIdx hfield hf).imp_right (hstores.others f)

/-- The part that a field stores to is filled with what a sequence has at its index. -/
theorem Stores.filled_readItems {r : Record δ α} {index : Nat} {name : String}
    {get : δ → Option β} {decode : Tree → Decoded β} (hstores : r.Stores index name get decode)
    {origin : Origin} {items : List Tree} {ending : Ending} {d : δ}
    (h : readItems origin r.fields items ending r.start = .ok d) :
    Filled items[index]? decode (get d) := by
  obtain ⟨optional, set, hfield, hset⟩ := hstores.field
  exact Record.filled_readItems hfield hset hstores.others h hstores.start

/-- A record that is decoded comes from a draft whose parts are what the document has for the
fields. -/
theorem exists_draft {r : Record δ α} {origin : Origin} (horigin : origin ≠ .jsonValue) {t : Tree}
    {a : α} (h : r.decode origin t = .ok a) :
    ∃ d, r.complete d = .ok a ∧
      ∀ {β : Type} {index : Nat} {name : String} {get : δ → Option β} {decode : Tree → Decoded β},
        r.Stores index name get decode → Filled (t.field? name index) decode (get d) := by
  cases t with
  | map entries ending =>
    rw [Record.decode, if_neg horigin] at h
    obtain ⟨d, hread, hrest⟩ := bind_eq_ok.1 h
    obtain ⟨_, -, hcomplete⟩ := bind_eq_ok.1 hrest
    exact ⟨d, hcomplete, fun hstores => hstores.filled_readEntries hread⟩
  | seq items ending =>
    obtain ⟨d, hread, hcomplete⟩ := bind_eq_ok.1 h
    exact ⟨d, hcomplete, fun hstores => hstores.filled_readItems hread⟩
  | date =>
    obtain ⟨d, hread, hcomplete⟩ := bind_eq_ok.1 h
    refine ⟨d, hcomplete, ?_⟩
    intro β index name get decode hstores
    have hfilled := hstores.filled_readEntries hread
    have hkey : (name == "$__toml_private_datetime") = false :=
      beq_eq_false_iff_ne.2 hstores.name_ne
    rwa [List.lookup_cons, hkey] at hfilled
  | _ => simp [Record.decode] at h

end Record

/-- What falls back on a value where a part of the draft is empty is given by the document. -/
theorem Filled.gives {t : Tree} {key : String} {index : Nat} {decode : Tree → Decoded β}
    {part : Option β} {fallback value : β} (h : Filled (t.field? key index) decode part)
    (hvalue : value = part.getD fallback) : t.Gives [(key, index)] decode fallback value := by
  unfold Filled at h
  unfold Tree.Gives Tree.under?
  subst hvalue
  rcases hfield : t.field? key index with _ | u
  · rw [hfield] at h
    rw [h]
    rfl
  · rw [hfield] at h
    obtain ⟨v, hv, rfl⟩ := h
    exact hv

end Document

end WebAccess
