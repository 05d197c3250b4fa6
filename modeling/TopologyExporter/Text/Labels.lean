/-!
# Labels

Names with values, in the order of the names, each name once.

* `insertLabel_sorted` — inserting a name keeps the order.
-/

namespace TopologyExporter

/-- Inserts a name with its value into a list in the order of names; a name that is there already
gets the new value. -/
def insertLabel (name value : String) : List (String × String) → List (String × String)
  | [] => [(name, value)]
  | (n, v) :: rest =>
    if name < n then (name, value) :: (n, v) :: rest
    else if name = n then (name, value) :: rest
    else (n, v) :: insertLabel name value rest

/-- The names are in strictly increasing order. -/
abbrev SortedNames (labels : List (String × String)) : Prop := labels.Pairwise fun a b => a.1 < b.1

/-- What is in a list after a name was inserted is that name or was there before. -/
theorem name_of_mem_insertLabel {name value : String} {labels : List (String × String)}
    {e : String × String} (h : e ∈ insertLabel name value labels) :
    e.1 = name ∨ e ∈ labels := by
  fun_induction insertLabel name value labels with
  | case1 => simp_all
  | case2 n v rest hlt => grind
  | case3 v rest hlt => grind
  | case4 n v rest hlt hne ih => grind

/-- A name that neither comes before another nor equals it comes after it. -/
theorem lt_of_not_lt_of_ne {a b : String} (h : ¬a < b) (hne : a ≠ b) : b < a :=
  Decidable.byContradiction fun hn =>
    hne (String.le_antisymm (String.not_lt.mp hn) (String.not_lt.mp h))

/-- Inserting keeps the names in order. -/
theorem insertLabel_sorted (name value : String) (labels : List (String × String))
    (h : SortedNames labels) : SortedNames (insertLabel name value labels) := by
  fun_induction insertLabel name value labels with
  | case1 => simp
  | case2 n v rest hlt =>
    refine List.pairwise_cons.mpr ⟨fun e he => ?_, h⟩
    rcases List.mem_cons.mp he with rfl | he
    · exact hlt
    · exact String.lt_trans hlt ((List.pairwise_cons.mp h).1 e he)
  | case3 v rest hlt => exact List.pairwise_cons.mpr (List.pairwise_cons.mp h)
  | case4 n v rest hlt hne ih =>
    obtain ⟨hhead, hrest⟩ := List.pairwise_cons.mp h
    refine List.pairwise_cons.mpr ⟨fun e he => ?_, ih hrest⟩
    rcases name_of_mem_insertLabel he with hname | he
    · exact hname ▸ lt_of_not_lt_of_ne hlt hne
    · exact hhead e he

/-- Names with values, in strictly increasing order of the names. -/
structure Labels where
  entries : List (String × String)
  sorted : SortedNames entries := by decide
deriving Repr, DecidableEq

namespace Labels

/-- No labels. -/
def empty : Labels := ⟨[], .nil⟩

instance : Inhabited Labels := ⟨empty⟩

/-- Gives a name a value, in place of an earlier one. -/
def insert (labels : Labels) (name value : String) : Labels :=
  ⟨insertLabel name value labels.entries,
    insertLabel_sorted name value labels.entries labels.sorted⟩

/-- The labels of a list; of two values of one name the later counts. -/
def ofList (entries : List (String × String)) : Labels :=
  entries.foldl (fun labels e => labels.insert e.1 e.2) empty

/-- The value of a name. -/
def get? (labels : Labels) (name : String) : Option String :=
  (labels.entries.find? (·.1 = name)).map Prod.snd

end Labels

end TopologyExporter
