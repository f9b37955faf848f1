import SexprQuery.Proofs.Outermost
import SexprQuery.Proofs.Replacement

/-!
# Substitution in one pass

`Node.replaceWith` finds the matches first, keeps the outermost ones and puts a
datum at the path of each. `Node.substitute` does the same in one walk from the
top: a selected node becomes what the transformation makes of it and is not looked
into, any other node is rebuilt around its slots. The two are equal as programs
over any state, and the nodes that the transformation sees are the outermost matches.

* `substitute_run` — putting data at their paths is the walk from the top;
* `replaceWith_eq_substitute` — both together, for every kind of substitution.
-/

namespace SexprQuery

variable {σ : Type}

/-! ## The pass from the top -/

mutual
/-- Walk a datum from the top. A selected node becomes what the transformation
makes of it; any other one keeps its line and its atoms, and its nodes are walked in
the same way, from left to right. -/
def Datum.substitute (selects : Path → Node → Bool) (transform : Match → StateM σ Datum) :
    Path → Datum → StateM σ Datum
  | q, .list line slots =>
    if selects q ⟨line, slots⟩ then transform (Match.ofFound (q, ⟨line, slots⟩))
    else do return .list line (← slotsSubstitute selects transform q 0 slots)
  | _, d => return d
termination_by structural _ d => d

/-- The same for a row of slots that are numbered from `i`. -/
def slotsSubstitute (selects : Path → Node → Bool) (transform : Match → StateM σ Datum) :
    Path → Nat → List Datum → StateM σ (List Datum)
  | _, _, [] => return []
  | q, i, d :: ds => do
    let head ← d.substitute selects transform (q ++ [i])
    let tail ← slotsSubstitute selects transform q (i + 1) ds
    return head :: tail
termination_by structural _ _ ds => ds
end

/-- Walk a tree from the top. -/
def Node.substitute (n : Node) (selects : Path → Node → Bool)
    (transform : Match → StateM σ Datum) : StateM σ Datum :=
  n.toDatum.substitute selects transform []

/-- A transformation that also lists what it has been called with. -/
def recorded (transform : Match → StateM σ Datum) : Match → StateM (σ × List Match) Datum :=
  fun m s =>
    let made := (transform m).run s.1
    (made.1, made.2, s.2 ++ [m])

/-! ## Putting data at the selected paths -/

/-- Call a transformation on nodes in their order; gives what it makes of each and the
state behind it. -/
def callAll (transform : Match → StateM σ Datum) :
    List (Path × Node) → σ → List (Path × Datum) × σ
  | [], s => ([], s)
  | f :: fs, s =>
    let made := (transform (Match.ofFound f)).run s
    let others := callAll transform fs made.2
    ((f.1, made.1) :: others.1, others.2)

theorem callAll_append (transform : Match → StateM σ Datum) (fs gs : List (Path × Node))
    (s : σ) :
    callAll transform (fs ++ gs) s =
      ((callAll transform fs s).1 ++ (callAll transform gs (callAll transform fs s).2).1,
        (callAll transform gs (callAll transform fs s).2).2) := by
  induction fs generalizing s with
  | nil => rfl
  | cons f fs ih => rw [List.cons_append, callAll, ih]; rfl

/-- Every call is answered at its own path. -/
theorem map_fst_callAll (transform : Match → StateM σ Datum) (fs : List (Path × Node)) (s : σ) :
    (callAll transform fs s).1.map Prod.fst = fs.map Prod.fst := by
  induction fs generalizing s with
  | nil => rfl
  | cons f fs ih => rw [callAll, List.map_cons, List.map_cons, ih]

/-- A transformation that does not look at its argument. -/
theorem callAll_pure (d : Datum) (fs : List (Path × Node)) (s : σ) :
    callAll (fun _ => pure d) fs s = (fs.map fun f => (f.1, d), s) := by
  induction fs with
  | nil => rfl
  | cons f fs ih =>
    rw [callAll]
    show ((f.1, d) :: (callAll (fun _ => pure d) fs s).1, (callAll (fun _ => pure d) fs s).2) = _
    rw [ih]
    rfl

/-- Recording changes no answer and lists the arguments in order. -/
theorem callAll_recorded (transform : Match → StateM σ Datum) (fs : List (Path × Node)) (s : σ)
    (log : List Match) :
    callAll (recorded transform) fs (s, log) =
      ((callAll transform fs s).1, (callAll transform fs s).2, log ++ fs.map Match.ofFound) := by
  induction fs generalizing s log with
  | nil => simp [callAll]
  | cons f fs ih =>
    have hrest := ih ((transform (Match.ofFound f)).run s).2 (log ++ [Match.ofFound f])
    rw [List.append_assoc, List.singleton_append] at hrest
    rw [callAll, callAll, List.map_cons]
    show ((f.1, _) :: (callAll (recorded transform) fs (_, log ++ [Match.ofFound f])).1,
      (callAll (recorded transform) fs (_, log ++ [Match.ofFound f])).2) = _
    rw [hrest]
    rfl

/-- Put data at paths that lead below a node at depth `k`. -/
def putBelow (k : Nat) (d : Datum) (puts : List (Path × Datum)) : Datum :=
  puts.foldl (fun tree r => Datum.put r.2 (r.1.drop k) tree) d

theorem putBelow_append (k : Nat) (d : Datum) (rs us : List (Path × Datum)) :
    putBelow k d (rs ++ us) = putBelow k (putBelow k d rs) us :=
  List.foldl_append

theorem modify_append_length {α : Type} (before : List α) (a : α) (after : List α) (f : α → α) :
    (before ++ a :: after).modify before.length f = before ++ f a :: after := by
  induction before with
  | nil => rfl
  | cons b before ih => simp [ih]

/-- Data that all go into one slot change that slot alone. -/
theorem putBelow_slot (q : Path) (line : Option Nat) (before : List Datum) (d : Datum)
    (after : List Datum) (puts : List (Path × Datum))
    (h : ∀ r ∈ puts, ∃ p, r.1 = q ++ before.length :: p) :
    putBelow q.length (.list line (before ++ d :: after)) puts =
      .list line (before ++ putBelow (q.length + 1) d puts :: after) := by
  induction puts generalizing d with
  | nil => rfl
  | cons r puts ih =>
    obtain ⟨p, hp⟩ := h r List.mem_cons_self
    have hout : r.1.drop q.length = before.length :: p := by rw [hp, List.drop_left]
    have hin : r.1.drop (q.length + 1) = p := by
      rw [← List.drop_drop, hout, List.drop_one, List.tail_cons]
    show putBelow q.length (Datum.put r.2 (r.1.drop q.length) _) puts = _
    rw [hout, Datum.put_cons_list, modify_append_length,
      ih (Datum.put r.2 p d) fun u hu => h u (List.mem_cons_of_mem r hu)]
    show _ = Datum.list line (before ++
      putBelow (q.length + 1) (Datum.put r.2 (r.1.drop (q.length + 1)) d) puts :: after)
    rw [hin]

/-- What is selected in one slot is answered at paths into that slot. -/
theorem callAll_selected_slot (selects : Path → Node → Bool)
    (transform : Match → StateM σ Datum) (q : Path) (i : Nat) (d : Datum) (s : σ) :
    ∀ r ∈ (callAll transform (d.selected selects (q ++ [i])) s).1, ∃ p, r.1 = q ++ i :: p := by
  intro r hr
  have hmem := List.mem_map_of_mem (f := Prod.fst) hr
  rw [map_fst_callAll] at hmem
  obtain ⟨⟨u, m⟩, hu, hru⟩ := List.mem_map.mp hmem
  obtain ⟨p, hp, _⟩ := (Datum.mem_selected selects (q ++ [i]) d u m).mp hu
  exact ⟨p, by rw [← hru, hp]; simp⟩

mutual
/-- The walk from the top calls the transformation on the selected nodes and puts what
it makes of them at their paths. -/
theorem Datum.substitute_run (selects : Path → Node → Bool)
    (transform : Match → StateM σ Datum) (q : Path) (d : Datum) (s : σ) :
    (d.substitute selects transform q).run s =
      (putBelow q.length d (callAll transform (d.selected selects q) s).1,
        (callAll transform (d.selected selects q) s).2) := by
  cases d with
  | list line slots =>
    rw [Datum.substitute, Datum.selected]
    by_cases hs : selects q ⟨line, slots⟩ = true
    · rw [if_pos hs, if_pos hs, callAll, callAll]
      show _ = (Datum.put _ (q.drop q.length) _, _)
      rw [List.drop_length, Datum.put_nil_list]
      rfl
    · rw [if_neg hs, if_neg hs]
      obtain ⟨hslots, hstate⟩ := slotsSubstitute_run selects transform q 0 slots s line [] rfl
      show (Datum.list line ((slotsSubstitute selects transform q 0 slots).run s).1,
        ((slotsSubstitute selects transform q 0 slots).run s).2) = _
      rw [hstate]
      exact Prod.ext hslots rfl
  | _ => rfl
termination_by structural d

/-- The same for a row of slots, behind the slots that are done already. -/
theorem slotsSubstitute_run (selects : Path → Node → Bool)
    (transform : Match → StateM σ Datum) (q : Path) (i : Nat) (ds : List Datum) (s : σ)
    (line : Option Nat) (before : List Datum) (hi : before.length = i) :
    Datum.list line (before ++ ((slotsSubstitute selects transform q i ds).run s).1) =
        putBelow q.length (.list line (before ++ ds))
          (callAll transform (slotsSelected selects q i ds) s).1 ∧
      ((slotsSubstitute selects transform q i ds).run s).2 =
        (callAll transform (slotsSelected selects q i ds) s).2 := by
  cases ds with
  | nil => exact ⟨rfl, rfl⟩
  | cons d ds =>
    subst hi
    have hd := Datum.substitute_run selects transform (q ++ [before.length]) d s
    rw [List.length_append, List.length_singleton] at hd
    have hput := putBelow_slot q line before d ds _
      (callAll_selected_slot selects transform q before.length d s)
    rw [slotsSelected, callAll_append, putBelow_append, hput]
    generalize callAll transform (d.selected selects (q ++ [before.length])) s = called at hd ⊢
    -- the state behind the first slot is where the other slots start from
    obtain ⟨hslots, hstate⟩ := slotsSubstitute_run selects transform q (before.length + 1) ds
      called.2 line (before ++ [putBelow (q.length + 1) d called.1]) (by simp)
    rw [List.append_assoc, List.append_assoc, List.singleton_append, List.singleton_append]
      at hslots
    have hrun : (slotsSubstitute selects transform q before.length (d :: ds)).run s =
        (putBelow (q.length + 1) d called.1 ::
            ((slotsSubstitute selects transform q (before.length + 1) ds).run called.2).1,
          ((slotsSubstitute selects transform q (before.length + 1) ds).run called.2).2) := by
      rw [slotsSubstitute, StateT.run_bind, hd]
      rfl
    rw [hrun]
    exact ⟨hslots, hstate⟩
termination_by structural ds
end

/-! ## Putting all -/

theorem Node.toDatum_foldl_replaceAt (n : Node) (puts : List (Path × Datum))
    (h : ∀ r ∈ puts, r.1 ≠ []) :
    (puts.foldl (fun tree r => tree.replaceAt r.1 r.2) n).toDatum =
      putBelow 0 n.toDatum puts := by
  induction puts generalizing n with
  | nil => rfl
  | cons r puts ih =>
    rw [List.foldl_cons, ih _ fun u hu => h u (List.mem_cons_of_mem r hu),
      n.toDatum_replaceAt (h r List.mem_cons_self)]
    rfl

/-- Paths of which none begins another one. -/
def Path.Apart (p q : Path) : Prop := ¬ p <+: q ∧ ¬ q <+: p

/-- Increasing paths part ways if none begins another one. -/
theorem Path.pairwise_apart {ps : List Path} (hlt : ps.Pairwise (· < ·))
    (h : ∀ q ∈ ps, ∀ r ∈ ps, q <+: r → q = r) : ps.Pairwise Path.Apart := by
  refine hlt.imp_of_mem ?_
  intro q r hq hr hqr
  have hne : q ≠ r := by
    rintro rfl
    exact List.lt_irrefl q hqr
  exact ⟨fun hprefix => hne (h q hq r hr hprefix),
    fun hprefix => hne (h r hr q hq hprefix).symm⟩

/-- At paths apart from each other, putting all is putting one after the other. -/
theorem Node.putAll_eq (n : Node) (puts : List (Path × Datum))
    (h : (puts.map Prod.fst).Pairwise Path.Apart) : n.putAll puts = putBelow 0 n.toDatum puts := by
  match puts, h with
  | [], _ => rfl
  | ([], d) :: rest, h =>
    cases rest with
    | nil => rfl
    | cons r rest =>
      have hroot := (List.pairwise_cons.mp h).1 r.1 (by simp)
      exact absurd List.nil_prefix hroot.1
  | (i :: p, d) :: rest, h =>
    refine n.toDatum_foldl_replaceAt ((i :: p, d) :: rest) ?_
    intro r hr
    rcases List.mem_cons.mp hr with rfl | hr
    · exact List.cons_ne_nil i p
    · intro hroot
      have := (List.pairwise_cons.mp h).1 r.1 (List.mem_map_of_mem hr)
      rw [hroot] at this
      exact this.2 List.nil_prefix

theorem Node.outermost_apart (n : Node) (p : Pattern) :
    ((n.outermost p).map Prod.fst).Pairwise Path.Apart := by
  refine Path.pairwise_apart (List.pairwise_map.mpr (n.outermost_pairwise p)) ?_
  simp only [List.forall_mem_map]
  intro f hf g hg
  have hf := (n.mem_outermost p f.1 f.2).mp hf
  exact hf.eq_of_prefix ((n.mem_outermost p g.1 g.2).mp hg)

/-- Replacing found nodes is calling on each and putting all. -/
theorem Node.replaceFound_run (n : Node) (found : List (Path × Node))
    (transform : Match → StateM σ Datum) (s : σ) :
    (n.replaceFound found transform).run s =
      (n.putAll (callAll transform found s).1, (callAll transform found s).2) := by
  have hcalls : (found.mapM fun f => do return (f.1, ← transform (Match.ofFound f)) :
      StateM σ (List (Path × Datum))).run s = callAll transform found s := by
    induction found generalizing s with
    | nil => rfl
    | cons f found ih =>
      rw [List.mapM_cons, callAll, ← ih]
      rfl
  rw [Node.replaceFound, StateT.run_bind, hcalls]
  rfl

/-- At the outermost matches it is the walk from the top. -/
theorem Node.replaceWith_run (n : Node) (p : Pattern) (transform : Match → StateM σ Datum)
    (s : σ) :
    (n.replaceWith p transform).run s =
      (putBelow 0 n.toDatum (callAll transform (n.outermost p) s).1,
        (callAll transform (n.outermost p) s).2) := by
  rw [Node.replaceWith, Node.replaceFound_run, n.putAll_eq]
  rw [map_fst_callAll]
  exact n.outermost_apart p

theorem Node.replaceWith_eq (n : Node) (p : Pattern) (transform : Match → StateM σ Datum) :
    n.replaceWith p transform = n.substitute (fun _ m => p.satisfiesNode m) transform := by
  funext s
  show (n.replaceWith p transform).run s = (n.substitute _ transform).run s
  rw [n.replaceWith_run, Node.substitute, Datum.substitute_run, ← n.outermost_eq_selected]
  rfl

/-- A path that is looked for is the only one that a walk from the top selects. -/
theorem Node.selected_path (n : Node) {q : Path} {m : Node} (h : n.at? q = some m) :
    n.toDatum.selected (fun r _ => q == r) [] = [(q, m)] := by
  have hmem : ∀ r k, (r, k) ∈ n.toDatum.selected (fun r _ => q == r) [] ↔ r = q ∧ k = m := by
    intro r k
    rw [Datum.mem_selected]
    constructor
    · rintro ⟨_, rfl, hat, hsel, -⟩
      obtain rfl := beq_iff_eq.mp hsel
      exact ⟨rfl, Option.some.inj (hat.symm.trans h)⟩
    · rintro ⟨rfl, rfl⟩
      refine ⟨r, rfl, h, beq_self_eq_true r, ?_⟩
      intro u _ _ hne _
      exact beq_eq_false_iff_ne.mpr (Ne.symm hne)
  have hpair := n.selected_pairwise fun r _ => q == r
  generalize n.toDatum.selected (fun r _ => q == r) [] = found at hmem hpair
  match found with
  | [] => exact absurd ((hmem q m).mpr ⟨rfl, rfl⟩) List.not_mem_nil
  | [(r, k)] =>
    obtain ⟨rfl, rfl⟩ := (hmem r k).mp List.mem_cons_self
    rfl
  | (r, k) :: (u, v) :: rest =>
    have hlt := (List.pairwise_cons.mp hpair).1 (u, v) List.mem_cons_self
    rw [((hmem r k).mp List.mem_cons_self).1, ((hmem u v).mp (by simp)).1] at hlt
    exact absurd hlt (List.lt_irrefl q)

/-- Replacements apart from a path leave the node there in its place. -/
theorem Node.at?_foldl_replaceAt (n : Node) (q : Path) (puts : List (Path × Datum))
    (h : ∀ r ∈ puts, Path.Apart r.1 q) :
    (puts.foldl (fun tree r => tree.replaceAt r.1 r.2) n).at? q = n.at? q := by
  induction puts generalizing n with
  | nil => rfl
  | cons r puts ih =>
    obtain ⟨hrq, hqr⟩ := h r List.mem_cons_self
    rw [List.foldl_cons, ih _ fun u hu => h u (List.mem_cons_of_mem r hu),
      n.at?_replaceAt_of_apart hrq hqr]

/-- Whatever has been put at the matches before, the next match is still there and can be
replaced. -/
theorem Node.replaceAt?_foldl_replaceAt (n : Node) (p : Pattern)
    {before after : List (Path × Node)} {f : Path × Node}
    (h : n.outermost p = before ++ f :: after) (hf : f.1 ≠ []) (puts : List (Path × Datum))
    (hputs : puts.map Prod.fst = before.map Prod.fst) (d : Datum) :
    ∃ tree, (puts.foldl (fun tree r => tree.replaceAt r.1 r.2) n).replaceAt? f.1 d =
      some (f.2, tree) := by
  have hat : n.at? f.1 = some f.2 := by
    refine ((n.mem_outermost p f.1 f.2).mp ?_).located
    rw [h]
    exact List.mem_append_right before List.mem_cons_self
  have hapart := n.outermost_apart p
  rw [h, List.map_append, List.pairwise_append] at hapart
  refine Node.replaceAt?_of_at? hf ?_ d
  rw [n.at?_foldl_replaceAt f.1 puts, hat]
  intro r hr
  refine hapart.2.2 r.1 ?_ f.1 (by simp)
  rw [← hputs]
  exact List.mem_map_of_mem hr

/-- **One pass.** Replacing the matches of a pattern calls the transformation exactly on
the nodes that satisfy it and lie in no other such node, once each and in the order
of their paths, and gives what a walk from the top gives that puts a datum in the
place of each. Every single replacement finds its node. Replacing all by one datum is
the same with a constant transformation, and replacing the first one is the same walk
that selects the first of those nodes alone. -/
theorem Node.replaceWith_eq_substitute (n : Node) (p : Pattern) :
    (∀ q m, (q, m) ∈ n.outermost p ↔ n.IsOutermost p q m) ∧
    ((n.outermost p).Pairwise fun a b => a.1 < b.1) ∧
    (∀ (σ : Type) (transform : Match → StateM σ Datum),
      n.replaceWith p transform = n.substitute (fun _ m => p.satisfiesNode m) transform ∧
      ∀ s, (n.replaceWith p (recorded transform)).run (s, []) =
        (((n.replaceWith p transform).run s).1, ((n.replaceWith p transform).run s).2,
          (n.outermost p).map Match.ofFound)) ∧
    (∀ before f after, n.outermost p = before ++ f :: after → f.1 ≠ [] →
      ∀ puts : List (Path × Datum), puts.map Prod.fst = before.map Prod.fst → ∀ d, ∃ tree,
        (puts.foldl (fun tree r => tree.replaceAt r.1 r.2) n).replaceAt? f.1 d =
          some (f.2, tree)) ∧
    (∀ d, n.replaceAll p d =
      ((n.substitute (fun _ m => p.satisfiesNode m) fun _ => pure d : StateM Unit Datum).run
        ()).1) ∧
    (∀ d, n.replaceFirst p d =
      ((n.substitute (fun q _ => (n.outermost p).head?.any fun f => f.1 == q)
        fun _ => pure d : StateM Unit Datum).run ()).1) := by
  refine ⟨n.mem_outermost p, n.outermost_pairwise p, ?_, ?_, ?_, ?_⟩
  · intro σ transform
    refine ⟨n.replaceWith_eq p transform, ?_⟩
    intro s
    rw [n.replaceWith_run, n.replaceWith_run, callAll_recorded, List.nil_append]
  · intro before f after h hf puts hputs d
    exact n.replaceAt?_foldl_replaceAt p h hf puts hputs d
  · intro d
    rw [← n.replaceWith_eq p, n.replaceWith_run, callAll_pure, Node.replaceAll, n.putAll_eq]
    rw [List.map_map]
    exact n.outermost_apart p
  · intro d
    rw [Node.replaceFirst, Node.substitute, Datum.substitute_run, callAll_pure]
    cases hfound : n.outermost p with
    | nil =>
      have hnone : n.toDatum.selected (fun _ _ => false) [] = [] := by
        rw [n.selected_eq, List.filter_eq_nil_iff.mpr fun _ _ => Bool.false_ne_true]
        rfl
      simp only [List.head?_nil, Option.any_none, hnone]
      rfl
    | cons f rest =>
      have hat : n.at? f.1 = some f.2 := by
        refine ((n.mem_outermost p f.1 f.2).mp ?_).located
        rw [hfound]
        exact List.mem_cons_self
      simp only [List.head?_cons, Option.any_some]
      rw [n.selected_path hat, n.putAll_eq _ (by simp)]
      rfl

end SexprQuery
