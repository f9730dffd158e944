import Mathlib.Data.List.Basic

/-!
# Forests

A forest is a list of trees, a tree a label with the forest below it. The type
is its own list type, so functions and proofs over it are plain structural
recursions with one case for the first tree: its label, what is below it and
what is right of it.
-/

/-- A list of trees with labels in `α`. -/
inductive Forest (α : Type) where
  | nil
  /-- A tree `label` with `childs` below it, left of the trees `rest`. -/
  | cons (label : α) (childs rest : Forest α)
  deriving Repr, DecidableEq

namespace Forest

variable {α β : Type}

/-- The trees of the first forest, then those of the second one. -/
protected def append : Forest α → Forest α → Forest α
  | nil, right => right
  | cons label childs rest, right => cons label childs (rest.append right)

instance : Append (Forest α) := ⟨Forest.append⟩

@[simp] theorem nil_append (right : Forest α) : nil ++ right = right := rfl

@[simp] theorem cons_append (label : α) (childs rest right : Forest α) :
    cons label childs rest ++ right = cons label childs (rest ++ right) := rfl

/-- The trees of all forests of a list. -/
def flatten (forests : List (Forest α)) : Forest α := forests.foldr (· ++ ·) nil

@[simp] theorem flatten_nil : flatten ([] : List (Forest α)) = nil := rfl

@[simp] theorem flatten_cons (forest : Forest α) (forests : List (Forest α)) :
    flatten (forest :: forests) = forest ++ flatten forests := rfl

/-- A forest of trees without children. -/
def leaves (labels : List α) : Forest α := labels.foldr (fun label rest => cons label nil rest) nil

/-! ## Labels in pre-order -/

/-- The labels of a forest, each before those below it and those right of it. -/
def preorder : Forest α → List α
  | nil => []
  | cons label childs rest => label :: (preorder childs ++ preorder rest)

@[simp] theorem preorder_nil : preorder (nil : Forest α) = [] := rfl

@[simp] theorem preorder_cons (label : α) (childs rest : Forest α) :
    preorder (cons label childs rest) = label :: (preorder childs ++ preorder rest) := rfl

/-- The labels of two forests side by side, the left one first. -/
@[simp] theorem preorder_append (left right : Forest α) :
    preorder (left ++ right) = preorder left ++ preorder right := by
  induction left with
  | nil => rfl
  | cons label childs rest _ ih => simp [ih]

/-- The labels of forests side by side, one forest after the other. -/
@[simp] theorem preorder_flatten (forests : List (Forest α)) :
    preorder (flatten forests) = (forests.map preorder).flatten := by
  induction forests with
  | nil => rfl
  | cons forest forests ih => simp [ih]

/-- A forest of leaves has its labels in order. -/
@[simp] theorem preorder_leaves (labels : List α) : preorder (leaves labels) = labels := by
  induction labels with
  | nil => rfl
  | cons label labels ih => exact congrArg (label :: ·) ih

/-! ## Roots and edges -/

/-- The labels of the trees themselves. -/
def roots : Forest α → List α
  | nil => []
  | cons label _ rest => label :: roots rest

/-- Every label that is not a root, behind the one right above it. -/
def edges : Forest α → List (α × α)
  | nil => []
  | cons label childs rest => childs.roots.map (label, ·) ++ (edges childs ++ edges rest)

/-- A root is among the labels. -/
theorem roots_subset_preorder (forest : Forest α) : forest.roots ⊆ forest.preorder := by
  induction forest with
  | nil => exact List.Subset.refl _
  | cons label childs rest _ ih =>
    intro x hx
    simp only [roots, preorder_cons, List.mem_cons, List.mem_append] at hx ⊢
    exact hx.imp id fun hx => .inr (ih hx)

/-- Both ends of an edge are among the labels. -/
theorem mem_preorder_of_edge {forest : Forest α} {upper lower : α}
    (h : (upper, lower) ∈ forest.edges) : upper ∈ forest.preorder ∧ lower ∈ forest.preorder := by
  induction forest with
  | nil => exact nomatch h
  | cons label childs rest ihc ihr =>
    simp only [edges, List.mem_append, List.mem_map, Prod.mk.injEq] at h
    simp only [preorder_cons, List.mem_cons, List.mem_append]
    obtain ⟨root, hroot, rfl, rfl⟩ | h | h := h
    · exact ⟨.inl rfl, .inr (.inl (roots_subset_preorder childs hroot))⟩
    · exact ⟨.inr (.inl (ihc h).1), .inr (.inl (ihc h).2)⟩
    · exact ⟨.inr (.inr (ihr h).1), .inr (.inr (ihr h).2)⟩

/-- Every label is a root or stands below another one. -/
theorem root_or_edge {forest : Forest α} {x : α} (h : x ∈ forest.preorder) :
    x ∈ forest.roots ∨ ∃ upper, (upper, x) ∈ forest.edges := by
  induction forest with
  | nil => exact nomatch h
  | cons label childs rest ihc ihr =>
    simp only [preorder_cons, List.mem_cons, List.mem_append] at h
    simp only [roots, edges, List.mem_cons, List.mem_append, List.mem_map, Prod.mk.injEq]
    obtain rfl | h | h := h
    · exact .inl (.inl rfl)
    · obtain hroot | ⟨upper, hedge⟩ := ihc h
      · exact .inr ⟨label, .inl ⟨x, hroot, rfl, rfl⟩⟩
      · exact .inr ⟨upper, .inr (.inl hedge)⟩
    · obtain hroot | ⟨upper, hedge⟩ := ihr h
      · exact .inl (.inr hroot)
      · exact .inr ⟨upper, .inr (.inr hedge)⟩

/-- The pre-order has a label before those right below it. -/
theorem sublist_preorder_of_edge {forest : Forest α} {upper lower : α}
    (h : (upper, lower) ∈ forest.edges) : [upper, lower].Sublist forest.preorder := by
  induction forest with
  | nil => exact nomatch h
  | cons label childs rest ihc ihr =>
    simp only [edges, List.mem_append, List.mem_map, Prod.mk.injEq] at h
    rw [preorder_cons]
    obtain ⟨root, hroot, rfl, rfl⟩ | h | h := h
    · apply List.Sublist.cons_cons
      apply List.singleton_sublist.mpr
      exact List.mem_append_left _ (roots_subset_preorder childs hroot)
    · exact ((ihc h).trans (List.sublist_append_left _ _)).cons label
    · exact ((ihr h).trans (List.sublist_append_right _ _)).cons label

/-! ## Depth -/

/-- The number of levels of a forest. -/
def height : Forest α → Nat
  | nil => 0
  | cons _ childs rest => max (height childs + 1) (height rest)

/-- The largest number of labels above a label. -/
def depth (forest : Forest α) : Nat := forest.height - 1

/-- The height of two forests side by side is that of the higher one. -/
theorem height_append (left right : Forest α) :
    (left ++ right).height = max left.height right.height := by
  induction left with
  | nil => simp [height]
  | cons label childs rest _ ih =>
    simp only [cons_append, height, ih]
    omega

/-- Forests side by side are no higher than the highest of them. -/
theorem height_flatten_le {forests : List (Forest α)} {n : Nat}
    (h : ∀ forest ∈ forests, forest.height ≤ n) : (flatten forests).height ≤ n := by
  induction forests with
  | nil => exact Nat.zero_le n
  | cons forest forests ih =>
    have hfirst := h forest List.mem_cons_self
    have hrest := ih fun other hother => h other (List.mem_cons_of_mem forest hother)
    rw [flatten_cons, height_append]
    omega

/-- Leaves have no level below them. -/
theorem height_leaves_le (labels : List α) : (leaves labels).height ≤ 1 := by
  induction labels with
  | nil => exact Nat.zero_le 1
  | cons label labels ih =>
    show max (0 + 1) (leaves labels).height ≤ 1
    omega

/-- Does `label` occur with exactly `depth` labels above it? -/
def OccursAt (label : α) : Nat → Forest α → Prop
  | _, nil => False
  | 0, cons first _ rest => label = first ∨ OccursAt label 0 rest
  | depth + 1, cons _ childs rest => OccursAt label depth childs ∨ OccursAt label (depth + 1) rest

/-- A label occurs in one of two forests side by side. -/
theorem occursAt_append {label : α} {depth : Nat} {left right : Forest α} :
    OccursAt label depth (left ++ right) ↔
      OccursAt label depth left ∨ OccursAt label depth right := by
  induction left with
  | nil => simp [OccursAt]
  | cons first childs rest _ ih => cases depth <;> simp [OccursAt, ih, or_assoc]

/-- A label occurs in one of several forests side by side. -/
theorem occursAt_flatten {label : α} {depth : Nat} {forests : List (Forest α)} :
    OccursAt label depth (flatten forests) ↔ ∃ forest ∈ forests, OccursAt label depth forest := by
  induction forests with
  | nil => simp [OccursAt]
  | cons forest forests ih => simp [occursAt_append, ih]

/-- The labels of leaves occur at the top. -/
theorem occursAt_leaves {label : α} {labels : List α} :
    OccursAt label 0 (leaves labels) ↔ label ∈ labels := by
  induction labels with
  | nil => simp [leaves, OccursAt]
  | cons first labels ih => exact (or_congr_right ih).trans List.mem_cons.symm

/-- Does `label` occur with at most `depth` labels above it? -/
def OccursWithin (label : α) (depth : Nat) (forest : Forest α) : Prop :=
  ∃ k ≤ depth, OccursAt label k forest

/-- A label within some depth is within every larger depth. -/
theorem OccursWithin.mono {label : α} {n m : Nat} {forest : Forest α}
    (h : OccursWithin label n forest) (hnm : n ≤ m) : OccursWithin label m forest := by
  obtain ⟨k, hk, hocc⟩ := h
  exact ⟨k, by omega, hocc⟩

/-- A forest to the right hides no label. -/
theorem OccursWithin.append_left {label : α} {depth : Nat} {left : Forest α}
    (h : OccursWithin label depth left) (right : Forest α) :
    OccursWithin label depth (left ++ right) := by
  obtain ⟨k, hk, hocc⟩ := h
  exact ⟨k, hk, occursAt_append.mpr (.inl hocc)⟩

/-- A forest to the left hides no label. -/
theorem OccursWithin.append_right {label : α} {depth : Nat} {right : Forest α}
    (h : OccursWithin label depth right) (left : Forest α) :
    OccursWithin label depth (left ++ right) := by
  obtain ⟨k, hk, hocc⟩ := h
  exact ⟨k, hk, occursAt_append.mpr (.inr hocc)⟩

/-- A label of one forest occurs as deep when the forest stands among others. -/
theorem OccursWithin.flatten {label : α} {depth : Nat} {forest : Forest α}
    (h : OccursWithin label depth forest) {forests : List (Forest α)} (hmem : forest ∈ forests) :
    OccursWithin label depth (Forest.flatten forests) := by
  obtain ⟨k, hk, hocc⟩ := h
  exact ⟨k, hk, occursAt_flatten.mpr ⟨forest, hmem, hocc⟩⟩

/-- Below a label everything is one level deeper. -/
theorem OccursWithin.below {label : α} {depth : Nat} {childs : Forest α}
    (h : OccursWithin label depth childs) (first : α) (rest : Forest α) :
    OccursWithin label (depth + 1) (cons first childs rest) := by
  obtain ⟨k, hk, hocc⟩ := h
  exact ⟨k + 1, by omega, .inl hocc⟩

/-- Apply `f` to the labels with at most `depth` labels above them. -/
def mapUpTo (f : α → α) : Nat → Forest α → Forest α
  | _, nil => nil
  | 0, cons label childs rest => cons (f label) childs (mapUpTo f 0 rest)
  | depth + 1, cons label childs rest =>
    cons (f label) (mapUpTo f depth childs) (mapUpTo f (depth + 1) rest)

/-- Mapping down to a depth keeps a label or replaces it by its image. -/
theorem mem_preorder_mapUpTo {f : α → α} {depth : Nat} {forest : Forest α} {label : α}
    (h : label ∈ preorder (mapUpTo f depth forest)) :
    ∃ old ∈ preorder forest, label = old ∨ label = f old := by
  induction forest generalizing depth with
  | nil => rw [mapUpTo] at h; exact nomatch h
  | cons first childs rest ihc ihr =>
    -- In both cases the label is the new first one, stands below it or right of it.
    have hcases : label = f first ∨ (∃ old ∈ preorder childs, label = old ∨ label = f old) ∨
        ∃ old ∈ preorder rest, label = old ∨ label = f old := by
      cases depth with
      | zero =>
        simp only [mapUpTo, preorder_cons, List.mem_cons, List.mem_append] at h
        exact h.imp id (Or.imp (fun hc => ⟨label, hc, .inl rfl⟩) ihr)
      | succ depth =>
        simp only [mapUpTo, preorder_cons, List.mem_cons, List.mem_append] at h
        exact h.imp id (Or.imp ihc ihr)
    simp only [preorder_cons, List.mem_cons, List.mem_append]
    obtain h | ⟨old, hold, h⟩ | ⟨old, hold, h⟩ := hcases
    · exact ⟨first, .inl rfl, .inr h⟩
    · exact ⟨old, .inr (.inl hold), h⟩
    · exact ⟨old, .inr (.inr hold), h⟩

/-- Down to that depth every label is replaced. -/
theorem occursAt_mapUpTo {f : α → α} {depth n : Nat} {forest : Forest α} {label : α}
    (h : OccursAt label depth forest) (hn : depth ≤ n) :
    OccursAt (f label) depth (mapUpTo f n forest) := by
  induction forest generalizing depth n with
  | nil => cases depth <;> exact nomatch h
  | cons first childs rest ihc ihr =>
    cases depth with
    | zero =>
      simp only [OccursAt] at h
      cases n <;> exact h.imp (congrArg f) (fun hr => ihr hr hn)
    | succ depth =>
      simp only [OccursAt] at h
      cases n with
      | zero => omega
      | succ n => exact h.imp (fun hc => ihc hc (by omega)) (fun hr => ihr hr hn)

/-- On a forest of few enough levels, all labels are reached. -/
theorem preorder_mapUpTo {f : α → α} {depth : Nat} {forest : Forest α}
    (h : forest.height ≤ depth + 1) : (mapUpTo f depth forest).preorder = forest.preorder.map f := by
  induction forest generalizing depth with
  | nil => cases depth <;> rfl
  | cons label childs rest ihc ihr =>
    simp only [height, Nat.max_le] at h
    cases depth with
    | zero =>
      -- Nothing stands below the roots.
      cases childs with
      | nil => simp [mapUpTo, ihr h.2]
      | cons first below right => simp [height] at h
    | succ depth => simp [mapUpTo, @ihc depth (by omega), ihr h.2]

@[simp] theorem height_mapUpTo (f : α → α) (depth : Nat) (forest : Forest α) :
    (mapUpTo f depth forest).height = forest.height := by
  induction forest generalizing depth with
  | nil => cases depth <;> rfl
  | cons label childs rest ihc ihr => cases depth <;> simp [mapUpTo, height, ihc, ihr]

/-- Apply `f` to every label. -/
def map (f : α → β) : Forest α → Forest β
  | nil => nil
  | cons label childs rest => cons (f label) (map f childs) (map f rest)

/-- A forest that is not higher than the depth is mapped as a whole. -/
theorem mapUpTo_map {f : α → β} {g : β → β} {depth : Nat} {forest : Forest α}
    (h : forest.height ≤ depth + 1) :
    mapUpTo g depth (forest.map f) = forest.map (g ∘ f) := by
  induction forest generalizing depth with
  | nil => cases depth <;> rfl
  | cons label childs rest ihc ihr =>
    simp only [height, Nat.max_le] at h
    cases depth with
    | zero =>
      -- Nothing stands below the roots.
      cases childs with
      | nil => simp [map, mapUpTo, ihr h.2]
      | cons first below right => simp [height] at h
    | succ depth => simp [map, mapUpTo, @ihc depth (by omega), ihr h.2]

end Forest
