import Mathlib.Data.List.Forall2
import Mathlib.Data.List.Nodup

/-!
# Keyed tables

A table is a list of rows with pairwise distinct keys, in insertion order.  Rows are read by key,
rewritten in place by a key-preserving function, and inserted only under a new key.
-/

namespace TrainingScheduler

/-- Rows with pairwise distinct keys, in insertion order. -/
structure Table {κ ρ : Type*} (key : ρ → κ) where
  /-- The stored rows. -/
  rows : List ρ
  /-- Primary-key constraint. -/
  nodup : (rows.map key).Nodup

namespace Table

variable {κ ρ : Type*} {key : ρ → κ}

def empty : Table key := ⟨[], List.nodup_nil⟩

theorem eq_of_key_eq (table : Table key) {left right : ρ} (left_mem : left ∈ table.rows)
    (right_mem : right ∈ table.rows) (keys : key left = key right) : left = right :=
  List.inj_on_of_nodup_map table.nodup left_mem right_mem keys

theorem ext {left right : Table key} (rows : left.rows = right.rows) : left = right := by
  cases left
  cases right
  cases rows
  rfl

/-- The rows of two tables are related position by position: rows change in place only. -/
def Rowwise (relation : ρ → ρ → Prop) (before after : Table key) : Prop :=
  List.Forall₂ relation before.rows after.rows

variable {weaker : ρ → ρ → Prop} {row : ρ}

namespace Rowwise

variable {relation : ρ → ρ → Prop} {before middle after : Table key}

theorem refl (refl : ∀ row, relation row row) (table : Table key) :
    Rowwise relation table table :=
  List.forall₂_same.mpr fun row _ => refl row

theorem comp {next composed : ρ → ρ → Prop} (first : Rowwise relation before middle)
    (second : Rowwise next middle after)
    (composes : ∀ {x y z}, relation x y → next y z → composed x z) :
    Rowwise composed before after := by
  unfold Rowwise at first second ⊢
  generalize before.rows = left at first
  generalize middle.rows = center at first second
  generalize after.rows = right at second
  induction first generalizing right with
  | nil => cases second; exact .nil
  | cons head _ induction =>
    cases second with
    | cons next rest => exact .cons (composes head next) (induction _ rest)

theorem trans (trans : ∀ {x y z}, relation x y → relation y z → relation x z)
    (first : Rowwise relation before middle) (second : Rowwise relation middle after) :
    Rowwise relation before after :=
  first.comp second trans

section

variable (related : Rowwise relation before after)

include related

theorem mono (embed : ∀ x y, relation x y → weaker x y) : Rowwise weaker before after :=
  List.Forall₂.imp embed related

theorem mono_of_mem (embed : ∀ x ∈ before.rows, ∀ y, relation x y → weaker x y) :
    Rowwise weaker before after := by
  unfold Rowwise at related ⊢
  generalize before.rows = left at related embed
  generalize after.rows = right at related
  induction related with
  | nil => exact .nil
  | cons head _ induction =>
    exact .cons (embed _ List.mem_cons_self _ head)
      (induction fun x member => embed x (List.mem_cons_of_mem _ member))

theorem filter {p : ρ → Bool} (keeps : ∀ {x y}, relation x y → p y = p x) :
    List.Forall₂ relation (before.rows.filter p) (after.rows.filter p) :=
  List.rel_filter (fun _ _ head => by simp [keeps head]) related

theorem exists_after (member : row ∈ before.rows) : ∃ next ∈ after.rows, relation row next := by
  unfold Rowwise at related
  generalize before.rows = left at related member
  generalize after.rows = right at related
  induction related with
  | nil => cases member
  | cons head _ induction =>
    rcases List.mem_cons.mp member with rfl | later
    · exact ⟨_, List.mem_cons_self, head⟩
    · obtain ⟨next, next_mem, relates⟩ := induction later
      exact ⟨next, List.mem_cons_of_mem _ next_mem, relates⟩

theorem exists_before (member : row ∈ after.rows) :
    ∃ old ∈ before.rows, relation old row := by
  have flipped : Rowwise (fun x y => relation y x) after before := List.Forall₂.flip related
  exact flipped.exists_after member

theorem countP_le (p : ρ → Bool) (keeps : ∀ x y, relation x y → p y → p x) :
    after.rows.countP p ≤ before.rows.countP p := by
  unfold Rowwise at related
  generalize before.rows = left at related ⊢
  generalize after.rows = right at related ⊢
  induction related with
  | nil => simp
  | @cons x y _ _ head _ induction =>
    simp only [List.countP_cons]
    have bound : (if p y then 1 else 0) ≤ (if p x then 1 else 0 : Nat) := by
      by_cases holds : p y
      · simp [holds, keeps x y head holds]
      · simp [holds]
    omega

end

end Rowwise

theorem map_keys {α : Type*} {name : α → κ} {f : ρ → α} (table : Table key)
    (keeps : ∀ row, name (f row) = key row) :
    (table.rows.map f).map name = table.rows.map key := by
  rw [List.map_map]
  exact List.map_congr_left fun row _ => keeps row

/-- Rewrite every row in place. -/
def mapRows (table : Table key) (f : ρ → ρ) (keeps : ∀ row, key (f row) = key row) : Table key :=
  ⟨table.rows.map f, (table.map_keys keeps).symm ▸ table.nodup⟩

variable {after before : Table key} {relation : ρ → ρ → Prop}

theorem rowwise_of_map {f : ρ → ρ} (rows : after.rows = before.rows.map f)
    (related : ∀ row ∈ before.rows, relation row (f row)) : Rowwise relation before after := by
  simp only [Rowwise, rows, List.forall₂_map_right_iff]
  rw [List.forall₂_same]
  exact related

/-- A unique constraint: rows that agree under `f` are one row. -/
def Unique {α : Type*} (table : Table key) (f : ρ → α) : Prop :=
  ∀ left ∈ table.rows, ∀ right ∈ table.rows, f left = f right → left = right

variable {α : Type*}

theorem Unique.rowwise {f : ρ → α} (unique : before.Unique f)
    (related : Rowwise relation before after) (keys : ∀ {x y}, relation x y → key y = key x)
    (keeps : ∀ {x y}, relation x y → f y = f x) : after.Unique f := by
  intro left left_mem right right_mem same
  obtain ⟨left', left_old, left_related⟩ := related.exists_before left_mem
  obtain ⟨right', right_old, right_related⟩ := related.exists_before right_mem
  have merged : left' = right' := by
    refine unique left' left_old right' right_old ?_
    rw [← keeps left_related, ← keeps right_related, same]
  refine after.eq_of_key_eq left_mem right_mem ?_
  rw [keys left_related, keys right_related, merged]

variable [DecidableEq κ] {table : Table key} {row : ρ} {k : κ} {f : ρ → ρ}

def lookup (table : Table key) (k : κ) : Option ρ :=
  table.rows.find? fun row => decide (key row = k)

theorem lookup_eq_some_iff : table.lookup k = some row ↔ row ∈ table.rows ∧ key row = k := by
  constructor
  · intro found
    exact ⟨List.mem_of_find?_eq_some found, by simpa using List.find?_some found⟩
  · rintro ⟨member, rfl⟩
    cases found : table.lookup (key row) with
    | none =>
      have absent := List.find?_eq_none.mp found row member
      simp at absent
    | some other =>
      have other_key : key other = key row := by simpa using List.find?_some found
      have other_mem : other ∈ table.rows := List.mem_of_find?_eq_some found
      rw [table.eq_of_key_eq other_mem member other_key]

theorem lookup_eq_none_iff : table.lookup k = none ↔ ∀ row ∈ table.rows, key row ≠ k := by
  simp [lookup, List.find?_eq_none]

theorem mem_of_lookup (found : table.lookup k = some row) : row ∈ table.rows :=
  (lookup_eq_some_iff.mp found).1

theorem key_of_lookup (found : table.lookup k = some row) : key row = k :=
  (lookup_eq_some_iff.mp found).2

theorem lookup_of_mem (member : row ∈ table.rows) : table.lookup (key row) = some row :=
  lookup_eq_some_iff.mpr ⟨member, rfl⟩

theorem eq_of_lookup {other : ρ} (found : table.lookup k = some row) (member : other ∈ table.rows)
    (same : key other = k) : other = row :=
  table.eq_of_key_eq member (mem_of_lookup found) (same.trans (key_of_lookup found).symm)

/-- Apply a function to the rows under one key. -/
def rewriteAt (key : ρ → κ) (k : κ) (f : ρ → ρ) (rows : List ρ) : List ρ :=
  rows.map fun row => if key row = k then f row else row

theorem mem_rewriteAt {rows : List ρ} :
    row ∈ rewriteAt key k f rows ↔
      (row ∈ rows ∧ key row ≠ k) ∨ ∃ old ∈ rows, key old = k ∧ row = f old := by
  simp only [rewriteAt, List.mem_map]
  constructor
  · rintro ⟨old, member, rfl⟩
    by_cases selected : key old = k
    · exact .inr ⟨old, member, selected, by simp [selected]⟩
    · exact .inl ⟨by simpa [selected] using member, by simp [selected]⟩
  · rintro (⟨member, other⟩ | ⟨old, member, selected, rfl⟩)
    · exact ⟨row, member, by simp [other]⟩
    · exact ⟨old, member, by simp [selected]⟩

theorem rewriteAt_of_absent {rows : List ρ} (absent : ∀ row ∈ rows, key row ≠ k) :
    rewriteAt key k f rows = rows := by
  conv_rhs => rw [← List.map_id rows]
  apply List.map_congr_left
  intro row member
  simp [absent row member]

theorem rewriteAt_rewriteAt {f g : ρ → ρ} {rows : List ρ} (keeps : ∀ row, key (f row) = key row) :
    rewriteAt key k g (rewriteAt key k f rows) = rewriteAt key k (fun row => g (f row)) rows := by
  rw [rewriteAt, rewriteAt, List.map_map]
  apply List.map_congr_left
  intro row _
  by_cases selected : key row = k <;> simp [selected, keeps]

theorem filter_rewriteAt {rows : List ρ} {p : ρ → Bool}
    (keeps : ∀ row ∈ rows, key row = k → p (f row) = p row) :
    (rewriteAt key k f rows).filter p = rewriteAt key k f (rows.filter p) := by
  rw [rewriteAt, List.filter_map, rewriteAt]
  congr 1
  apply List.filter_congr
  intro row member
  by_cases selected : key row = k
  · simpa [selected] using keeps row member selected
  · simp [selected]

theorem rowwise_of_rewriteAt (rows : after.rows = rewriteAt key k f before.rows)
    (refl : ∀ row, relation row row)
    (changed : ∀ row ∈ before.rows, key row = k → relation row (f row)) :
    Rowwise relation before after := by
  simp only [Rowwise, rows, rewriteAt, List.forall₂_map_right_iff]
  rw [List.forall₂_same]
  intro row member
  by_cases selected : key row = k
  · simpa [selected] using changed row member selected
  · simpa [selected] using refl row

/-- Rewrite the row under one key in place. -/
def modify (table : Table key) (k : κ) (f : ρ → ρ) (keeps : ∀ row, key (f row) = key row) :
    Table key where
  rows := rewriteAt key k f table.rows
  nodup := by
    rw [rewriteAt, table.map_keys fun row => by split_ifs <;> simp [keeps]]
    exact table.nodup

section

variable {before after : Table key}
  (rows : after.rows = rewriteAt key k f before.rows) (keeps : ∀ row, key (f row) = key row)

include rows keeps

theorem lookup_rewritten_self : after.lookup k = (before.lookup k).map f := by
  cases found : before.lookup k with
  | none =>
    rw [Option.map_none, lookup_eq_none_iff, rows]
    intro row member
    rcases mem_rewriteAt.mp member with ⟨-, other⟩ | ⟨old, old_mem, selected, -⟩
    · exact other
    · exact absurd selected (lookup_eq_none_iff.mp found old old_mem)
  | some row =>
    rw [Option.map_some, lookup_eq_some_iff, rows]
    have row_key := key_of_lookup found
    exact ⟨mem_rewriteAt.mpr (.inr ⟨row, mem_of_lookup found, row_key, rfl⟩),
      (keeps row).trans row_key⟩

theorem lookup_rewritten_ne {other : κ} (ne : other ≠ k) :
    after.lookup other = before.lookup other := by
  cases found : before.lookup other with
  | none =>
    rw [lookup_eq_none_iff, rows]
    intro row member
    rcases mem_rewriteAt.mp member with ⟨row_mem, -⟩ | ⟨old, -, selected, rfl⟩
    · exact lookup_eq_none_iff.mp found row row_mem
    · rw [keeps, selected]
      exact ne.symm
  | some row =>
    rw [lookup_eq_some_iff, rows]
    have row_key := key_of_lookup found
    exact ⟨mem_rewriteAt.mpr (.inl ⟨mem_of_lookup found, by rwa [row_key]⟩), row_key⟩

end

/-- Append a row under a key that is not in use. -/
def insert (table : Table key) (row : ρ) : Option (Table key) :=
  if fresh : key row ∉ table.rows.map key then
    some
      { rows := table.rows ++ [row]
        nodup := by
          rw [List.map_append]
          exact List.nodup_append.mpr ⟨table.nodup, by simp, by
            intro value value_mem other other_mem
            simp only [List.map_cons, List.map_nil, List.mem_singleton] at other_mem
            rintro rfl
            exact fresh (other_mem ▸ value_mem)⟩ }
  else
    none

variable {table : Table key}

theorem insert_eq_some (inserted : table.insert row = some after) :
    after.rows = table.rows ++ [row] ∧ ∀ old ∈ table.rows, key old ≠ key row := by
  unfold insert at inserted
  split at inserted
  · rename_i fresh
    cases inserted
    refine ⟨rfl, ?_⟩
    intro old member equal
    exact fresh (equal ▸ List.mem_map_of_mem member)
  · cases inserted

variable {other : ρ}

theorem mem_insert (inserted : table.insert row = some after) :
    other ∈ after.rows ↔ other ∈ table.rows ∨ other = row := by
  rw [(insert_eq_some inserted).1, List.mem_append, List.mem_singleton]

theorem Unique.insert {f : ρ → α} (unique : table.Unique f)
    (inserted : table.insert row = some after) (fresh : ∀ old ∈ table.rows, f old ≠ f row) :
    after.Unique f := by
  intro left left_mem right right_mem same
  rcases (mem_insert inserted).mp left_mem with left_old | rfl
  · rcases (mem_insert inserted).mp right_mem with right_old | rfl
    · exact unique left left_old right right_old same
    · exact absurd same (fresh left left_old)
  · rcases (mem_insert inserted).mp right_mem with right_old | rfl
    · exact absurd same.symm (fresh right right_old)
    · rfl

theorem mem_of_insert_eq_none (rejected : table.insert row = none) :
    ∃ old ∈ table.rows, key old = key row := by
  unfold insert at rejected
  split at rejected
  · cases rejected
  · rename_i used
    exact List.mem_map.mp (not_not.mp used)

theorem lookup_insert_self (inserted : table.insert row = some after) :
    after.lookup (key row) = some row := by
  apply lookup_of_mem
  rw [(insert_eq_some inserted).1]
  exact List.mem_append_right _ List.mem_cons_self

theorem lookup_insert_ne (inserted : table.insert row = some after) (ne : k ≠ key row) :
    after.lookup k = table.lookup k := by
  simp [lookup, (insert_eq_some inserted).1, List.find?_append, ne.symm]

/-- Rewrite the row that is stored under the key of this one. -/
def replace (table : Table key) (row : ρ) : Table key where
  rows := rewriteAt key (key row) (fun _ => row) table.rows
  nodup := by
    rw [rewriteAt, table.map_keys fun old => by split_ifs with selected <;> simp [selected]]
    exact table.nodup

theorem mem_replace :
    other ∈ (table.replace row).rows ↔
      (other ∈ table.rows ∧ key other ≠ key row) ∨
        other = row ∧ ∃ old ∈ table.rows, key old = key row := by
  rw [replace, mem_rewriteAt]
  refine or_congr Iff.rfl ⟨?_, ?_⟩
  · rintro ⟨old, member, selected, rfl⟩
    exact ⟨rfl, old, member, selected⟩
  · rintro ⟨rfl, old, member, selected⟩
    exact ⟨old, member, selected, rfl⟩

theorem lookup_replace_ne (ne : k ≠ key row) : (table.replace row).lookup k = table.lookup k := by
  cases found : table.lookup k with
  | none =>
    rw [lookup_eq_none_iff] at found ⊢
    intro other member
    rcases mem_replace.mp member with ⟨old, -⟩ | ⟨rfl, -⟩
    · exact found other old
    · exact ne.symm
  | some old =>
    obtain ⟨member, selected⟩ := lookup_eq_some_iff.mp found
    exact lookup_eq_some_iff.mpr ⟨mem_replace.mpr (.inl ⟨member, selected ▸ ne⟩), selected⟩

variable {old : ρ}

theorem lookup_replace_self (found : table.lookup (key row) = some old) :
    (table.replace row).lookup (key row) = some row :=
  lookup_of_mem (mem_replace.mpr (.inr ⟨rfl, old, lookup_eq_some_iff.mp found⟩))

/-- At most one row was inserted, or replaced by a row it is related to. -/
inductive Change (relation : ρ → ρ → Prop) (fresh : ρ → Prop) (before : Table key) :
    Table key → Prop where
  | same : Change relation fresh before before
  | inserted {row : ρ} {after : Table key} (inserted : before.insert row = some after)
      (new : fresh row) : Change relation fresh before after
  | replaced {old row : ρ} (found : before.lookup (key row) = some old)
      (related : relation old row) : Change relation fresh before (before.replace row)

namespace Change

variable {relation : ρ → ρ → Prop} {fresh : ρ → Prop} {before after : Table key}

theorem mono {newer : ρ → Prop} (embed : ∀ old row, relation old row → weaker old row)
    (news : ∀ row, fresh row → newer row) (change : before.Change relation fresh after) :
    before.Change weaker newer after := by
  cases change with
  | same => exact .same
  | inserted inserted new => exact .inserted inserted (news _ new)
  | replaced found related => exact .replaced found (embed _ _ related)

section

variable (change : before.Change relation fresh after)

include change

theorem exists_before (member : row ∈ after.rows) :
    row ∈ before.rows ∨ (fresh row ∧ ∀ old ∈ before.rows, key old ≠ key row) ∨
      ∃ old ∈ before.rows, key old = key row ∧ relation old row := by
  cases change with
  | same => exact .inl member
  | inserted inserted new =>
    rcases (mem_insert inserted).mp member with old | rfl
    · exact .inl old
    · exact .inr (.inl ⟨new, (insert_eq_some inserted).2⟩)
  | replaced found related =>
    rcases mem_replace.mp member with ⟨old, -⟩ | ⟨rfl, -⟩
    · exact .inl old
    · exact .inr (.inr ⟨_, mem_of_lookup found, key_of_lookup found, related⟩)

theorem origin (member : row ∈ after.rows) :
    fresh row ∨ ∃ old ∈ before.rows, key old = key row ∧ (row = old ∨ relation old row) := by
  rcases change.exists_before member with old | ⟨new, -⟩ | ⟨old, old_mem, same, related⟩
  · exact .inr ⟨row, old, rfl, .inl rfl⟩
  · exact .inl new
  · exact .inr ⟨old, old_mem, same, .inr related⟩

theorem lookup_eq_some (found : before.lookup k = some old) :
    ∃ row, after.lookup k = some row ∧ (row = old ∨ relation old row) := by
  cases change with
  | same => exact ⟨old, found, .inl rfl⟩
  | @inserted row _ inserted new =>
    refine ⟨old, ?_, .inl rfl⟩
    have ne : k ≠ key row := by
      rintro rfl
      exact (insert_eq_some inserted).2 old (mem_of_lookup found) (key_of_lookup found)
    rw [lookup_insert_ne inserted ne, found]
  | @replaced other row other_found related =>
    by_cases same : k = key row
    · subst same
      cases found.symm.trans other_found
      exact ⟨row, lookup_replace_self other_found, .inr related⟩
    · exact ⟨old, (lookup_replace_ne same).trans found, .inl rfl⟩

theorem lookup_kept (found : before.lookup k = some old) (kept : ∀ row, ¬ relation old row) :
    after.lookup k = some old := by
  obtain ⟨row, row_found, rfl | related⟩ := change.lookup_eq_some found
  · exact row_found
  · exact absurd related (kept row)

theorem exists_after (member : old ∈ before.rows) :
    ∃ row ∈ after.rows, key row = key old ∧ (row = old ∨ relation old row) := by
  obtain ⟨row, found, related⟩ := change.lookup_eq_some (lookup_of_mem member)
  exact ⟨row, mem_of_lookup found, key_of_lookup found, related⟩

/-- A unique constraint survives if replaced rows keep the value and a new row has a new one. -/
theorem unique {f : ρ → α} (unique : before.Unique f)
    (keeps : ∀ old row, relation old row → f row = f old)
    (news : ∀ row, fresh row → ∀ old ∈ before.rows, f old ≠ f row) : after.Unique f := by
  cases change with
  | same => exact unique
  | inserted inserted new => exact unique.insert inserted (news _ new)
  | @replaced old row found related =>
    have origins {other : ρ} (member : other ∈ (before.replace row).rows) :
        ∃ earlier ∈ before.rows, key earlier = key other ∧ f earlier = f other := by
      rcases mem_replace.mp member with ⟨earlier, -⟩ | ⟨rfl, -⟩
      · exact ⟨other, earlier, rfl, rfl⟩
      · exact ⟨old, mem_of_lookup found, key_of_lookup found, (keeps _ _ related).symm⟩
    intro left left_mem right right_mem same
    obtain ⟨left_old, left_old_mem, left_key, left_value⟩ := origins left_mem
    obtain ⟨right_old, right_old_mem, right_key, right_value⟩ := origins right_mem
    have olds : left_old = right_old :=
      unique _ left_old_mem _ right_old_mem (left_value.trans (same.trans right_value.symm))
    refine eq_of_key_eq _ left_mem right_mem ?_
    rw [← left_key, ← right_key, olds]

end

end Change

/-- Store a row under its key, replacing the row already there. -/
def put (table : Table key) (row : ρ) : Table key :=
  (table.insert row).getD (table.replace row)

theorem mem_put :
    other ∈ (table.put row).rows ↔ other = row ∨ other ∈ table.rows ∧ key other ≠ key row := by
  unfold put
  cases inserted : table.insert row with
  | some after =>
    obtain ⟨rows, fresh⟩ := insert_eq_some inserted
    simp only [Option.getD_some, rows, List.mem_append, List.mem_singleton]
    constructor
    · rintro (member | rfl)
      · exact .inr ⟨member, fresh other member⟩
      · exact .inl rfl
    · rintro (rfl | ⟨member, -⟩)
      · exact .inr rfl
      · exact .inl member
  | none =>
    have stored := mem_of_insert_eq_none inserted
    rw [Option.getD_none, mem_replace, and_iff_left stored, or_comm]

section

variable {name : α → κ} {f : ρ → α}

/-- The rows as another type sees them, under the same keys. -/
def image (table : Table key) (f : ρ → α) (keeps : ∀ row, name (f row) = key row) : Table name :=
  ⟨table.rows.map f, (table.map_keys keeps).symm ▸ table.nodup⟩

theorem lookup_image (table : Table key) (keeps : ∀ row, name (f row) = key row) (k : κ) :
    (table.image f keeps).lookup k = (table.lookup k).map f := by
  have same : (fun row => decide (name row = k)) ∘ f = fun row => decide (key row = k) :=
    funext fun row => by rw [Function.comp_apply, keeps]
  rw [lookup, image, List.find?_map, same, lookup]

theorem rewriteAt_map {g : ρ → ρ} {h : α → α} {rows : List ρ}
    (keeps : ∀ row, name (f row) = key row) (commutes : ∀ row, f (g row) = h (f row)) :
    (rewriteAt key k g rows).map f = rewriteAt name k h (rows.map f) := by
  simp only [rewriteAt, List.map_map]
  refine List.map_congr_left fun row _ => ?_
  by_cases selected : key row = k <;> simp [keeps, selected, commutes]

theorem image_modify (table : Table key) (keeps : ∀ row, name (f row) = key row) {g : ρ → ρ}
    {h : α → α} (row_keeps : ∀ row, key (g row) = key row)
    (image_keeps : ∀ row, name (h row) = name row) (commutes : ∀ row, f (g row) = h (f row)) :
    (table.modify k g row_keeps).image f keeps = (table.image f keeps).modify k h image_keeps :=
  ext (rewriteAt_map keeps commutes)

theorem image_put (table : Table key) (keeps : ∀ row, name (f row) = key row) (row : ρ) :
    (table.put row).image f keeps = (table.image f keeps).put (f row) := by
  have names := table.map_keys keeps
  apply ext
  by_cases used : key row ∈ table.rows.map key
  · have image_used : name (f row) ∈ (table.image f keeps).rows.map name := by
      rw [image, names, keeps]
      exact used
    simp only [put, insert, used, image_used, not_true_eq_false, dite_false, Option.getD_none]
    have rewritten : (rewriteAt key (key row) (fun _ => row) table.rows).map f =
        rewriteAt name (key row) (fun _ => f row) (table.rows.map f) :=
      rewriteAt_map keeps fun _ => rfl
    simp only [image, replace, rewritten, keeps]
  · have image_free : name (f row) ∉ (table.image f keeps).rows.map name := by
      rw [image, names, keeps]
      exact used
    simp only [put, insert, used, image_free, not_false_eq_true, dite_true]
    simp [image]

end

end Table

end TrainingScheduler
