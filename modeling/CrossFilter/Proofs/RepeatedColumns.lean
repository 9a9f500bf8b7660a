import CrossFilter.Proofs.ChartOutcomes
import Mathlib.Data.List.Induction
import Mathlib.Data.List.Nodup

/-!
# Repeated columns

Several columns of one name may be reported. A catalog is made column by column: a column whose name
is there already is left out, and any other comes last (`firstOfName_concat`). Either step keeps two
things: the first column of a name is the one that is found, and the names stand in the order in
which they were first reported (`FirstsOf.skip`, `FirstsOf.push`).

`ofList_keepsFirst` says for every list of columns what its catalog answers, and that the columns of
the catalog give it back. All answers about a name come from one column. A column states its type,
and apart from that whether it is numeric. The catalog repeats both as they are stated, so that the
two agree about a name where they do in its first column. They do in every column that is made of a
name and a tag, and a catalog that was read has no others (`agrees_of_ofJson?`).
-/

namespace CrossFilter

namespace Column

/-- The first of the columns with this name. -/
def FirstNamed (cs : List Column) (name : String) (c : Column) : Prop :=
  c.name = name ∧ ∃ before after, cs = before ++ c :: after ∧ ∀ d ∈ before, d.name ≠ name

variable {cs kept : List Column} {n : String} {c : Column}

theorem find?_eq_some_iff_firstNamed :
    cs.find? (fun d => d.name == n) = some c ↔ FirstNamed cs n c := by
  simp [List.find?_eq_some_iff_append, FirstNamed]

/-- A column that states what its tag says. -/
def IsReported (c : Column) : Prop := c = .ofTag c.name c.tag

theorem isReported_ofTag (name tag : String) : (ofTag name tag).IsReported := rfl

theorem IsReported.isNumeric_eq (h : c.IsReported) : c.isNumeric = c.type.isNumeric := by
  rw [h]
  rfl

theorem isSome_find?_iff : (cs.find? fun d => d.name == n).isSome = true ↔ n ∈ cs.map name := by
  simp only [List.find?_isSome, beq_iff_eq, List.mem_map]

/-! ## One column more -/

theorem firstOfName_concat (cs : List Column) (c : Column) : firstOfName (cs ++ [c]) =
    if c.name ∈ cs.map name then firstOfName cs else firstOfName cs ++ [c] := by
  induction cs with
  | nil => rfl
  | cons d cs ih =>
    rw [List.cons_append, firstOfName, ih, firstOfName]
    by_cases hc : c.name ∈ cs.map name
    · rw [if_pos hc, List.map_cons, if_pos (List.mem_cons_of_mem _ hc)]
    · rw [if_neg hc, List.filter_append]
      by_cases hd : c.name = d.name
      · simp [hd]
      · have hnew : c.name ∉ (d :: cs).map name := by simpa [hd] using hc
        rw [if_neg hnew]
        simp [hd]

/-- Some columns were taken over from a list, by the first of each name. -/
structure FirstsOf (cs kept : List Column) : Prop where
  find?_eq : ∀ n, (kept.find? fun d => d.name == n) = cs.find? fun d => d.name == n
  ordered : (kept.map name).Pairwise fun a b => (cs.map name).idxOf a < (cs.map name).idxOf b

namespace FirstsOf

theorem mem_names_iff (h : FirstsOf cs kept) : n ∈ kept.map name ↔ n ∈ cs.map name := by
  rw [← isSome_find?_iff, h.find?_eq, isSome_find?_iff]

theorem ordered_append (h : FirstsOf cs kept) (more : List Column) :
    (kept.map name).Pairwise fun a b =>
      ((cs ++ more).map name).idxOf a < ((cs ++ more).map name).idxOf b := by
  rw [List.map_append]
  refine h.ordered.imp_of_mem fun ha hb hlt => ?_
  rwa [List.idxOf_append_of_mem (h.mem_names_iff.1 ha),
    List.idxOf_append_of_mem (h.mem_names_iff.1 hb)]

theorem skip (h : FirstsOf cs kept) (hc : c.name ∈ cs.map name) : FirstsOf (cs ++ [c]) kept where
  find?_eq n := by
    rw [List.find?_append, h.find?_eq]
    by_cases hn : c.name = n
    · obtain ⟨d, hd⟩ := Option.isSome_iff_exists.1 (isSome_find?_iff.2 (hn ▸ hc))
      rw [hd, Option.some_or]
    · simp [hn]
  ordered := h.ordered_append [c]

theorem push (h : FirstsOf cs kept) (hc : c.name ∉ cs.map name) :
    FirstsOf (cs ++ [c]) (kept ++ [c]) where
  find?_eq n := by
    rw [List.find?_append, List.find?_append, h.find?_eq]
  ordered := by
    have hnames : (kept ++ [c]).map name = kept.map name ++ [c.name] := List.map_append
    rw [hnames, List.pairwise_append]
    refine ⟨h.ordered_append [c], List.pairwise_singleton _ _, fun a ha b hb => ?_⟩
    obtain rfl := List.mem_singleton.1 hb
    have ha' : a ∈ cs.map name := h.mem_names_iff.1 ha
    rw [List.map_append, List.idxOf_append_of_mem ha', List.idxOf_append_of_notMem hc]
    exact Nat.lt_add_right _ (List.idxOf_lt_length_iff.2 ha')

end FirstsOf

theorem firstsOf_firstOfName (cs : List Column) : FirstsOf cs (firstOfName cs) := by
  -- From the end: a column is compared with those that were reported before it.
  induction cs using List.reverseRecOn with
  | nil => exact ⟨fun _ => rfl, .nil⟩
  | append_singleton cs c ih =>
    rw [firstOfName_concat]
    split
    · next hc => exact ih.skip hc
    · next hc => exact ih.push hc

end Column

namespace Catalog

open Column (FirstNamed)

/-! ## The catalog -/

variable {catalog : Catalog} {n : String} {c : Column}

theorem mem_columns_iff : c ∈ catalog.columns ↔ catalog.find? c.name = some c := by
  constructor
  · intro hc
    have hname : c.name ∈ catalog.columns.map Column.name := List.mem_map_of_mem hc
    obtain ⟨d, hd⟩ := Option.isSome_iff_exists.1 (Column.isSome_find?_iff.2 hname)
    have hsame : d.name = c.name := (Column.find?_eq_some_iff_firstNamed.1 hd).1
    have hd' : d ∈ catalog.columns := List.mem_of_find?_eq_some hd
    rw [find?, hd, List.inj_on_of_nodup_map catalog.distinct hd' hc hsame]
  · exact List.mem_of_find?_eq_some

theorem find?_ofList_iff {cs : List Column} :
    (ofList cs).find? n = some c ↔ FirstNamed cs n c := by
  rw [← Column.find?_eq_some_iff_firstNamed, ← (Column.firstsOf_firstOfName cs).find?_eq]
  rfl

/-- A name is marked as numeric exactly when it has a numeric type. -/
def Agrees (catalog : Catalog) (n : String) : Prop :=
  catalog.isNumeric n = true ↔ catalog.HoldsNumbers n

theorem agrees_iff : catalog.Agrees n ↔
    ∀ c, catalog.find? n = some c → c.isNumeric = c.type.isNumeric := by
  unfold Agrees isNumeric HoldsNumbers typeOf?
  cases catalog.find? n with
  | none => simp
  | some c => cases c.isNumeric <;> simp

example : (ofList
      [.ofTag "region" "utf8", .ofTag "sales" "float64", .ofTag "region" "int64"]).columns =
    [.ofTag "region" "utf8", .ofTag "sales" "float64"] := by
  decide +kernel

/-- A column of texts that is marked as numeric, which no tag makes. -/
example : (ofList [⟨"region", .text, true, "utf8"⟩]).isNumeric "region" = true ∧
    ¬ (ofList [⟨"region", .text, true, "utf8"⟩]).HoldsNumbers "region" := by
  decide +kernel

/-! ## Catalogs that are read -/

theorem isReported_of_column? {v : Json} (h : column? v = some c) : c.IsReported := by
  unfold column? at h
  split at h
  · obtain ⟨name, -, h⟩ := Option.bind_eq_some_iff.1 h
    obtain rfl := Option.some.inj h
    exact Column.isReported_ofTag name ""
  · obtain ⟨name, -, h⟩ := Option.bind_eq_some_iff.1 h
    obtain ⟨tag, -, h⟩ := Option.bind_eq_some_iff.1 h
    obtain rfl := Option.some.inj h
    exact Column.isReported_ofTag name tag
  · obtain ⟨_, -, h⟩ := Option.bind_eq_some_iff.1 h
    obtain ⟨name, -, h⟩ := Option.bind_eq_some_iff.1 h
    obtain ⟨tag, -, h⟩ := Option.bind_eq_some_iff.1 h
    obtain rfl := Option.some.inj h
    exact Column.isReported_ofTag name tag
  · cases h

theorem isReported_of_columns {items : List Json} {cs : List Column}
    (h : List.Forall₂ (fun item c => column? item = some c) items cs) :
    ∀ c ∈ cs, c.IsReported := by
  induction h with
  | nil => simp
  | cons hc _ ih => exact List.forall_mem_cons.2 ⟨isReported_of_column? hc, ih⟩

/-- What is read of a column is its name and its tag. -/
theorem isReported_of_ofJson? {v : Json} (h : ofJson? v = some catalog) :
    ∀ c ∈ catalog.columns, c.IsReported := by
  obtain ⟨fields, -, h⟩ := Option.bind_eq_some_iff.1 h
  obtain ⟨cs, hcs, h⟩ := Option.bind_eq_some_iff.1 h
  obtain rfl := Option.some.inj h
  have hall : ∀ c ∈ cs, c.IsReported := by
    cases hfield : fields "columns_info" with
    | none =>
      rw [hfield] at hcs
      obtain rfl := Option.some.inj hcs
      simp
    | some sent =>
      rw [hfield, Json.field?, Json.list?_eq_some_iff] at hcs
      obtain ⟨items, -, hitems⟩ := hcs
      exact isReported_of_columns hitems
  intro c hc
  obtain ⟨-, before, after, rfl, -⟩ := (mem_columns_iff.trans find?_ofList_iff).1 hc
  exact hall c (by simp)

theorem agrees_of_ofJson? {v : Json} (h : ofJson? v = some catalog) (n : String) :
    catalog.Agrees n :=
  agrees_iff.2 fun c hc =>
    (isReported_of_ofJson? h c (List.mem_of_find?_eq_some hc)).isNumeric_eq

end Catalog

end CrossFilter
