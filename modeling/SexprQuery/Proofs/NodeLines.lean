import SexprQuery.Proofs.Measures
import SexprQuery.Proofs.TextPlaces

/-!
# Lines of nodes

The nodes of forms, in pre-order, stand on the lines of the opening parentheses of their text
in the order of the text, since forms that are flattened are the tokens again
(`map_line_of_pieces`). These lines never decrease. So the node that is last in a tree has its
largest line (`foldr_laterLine_of_pairwise`), and the node of a tree that is first, which is
its root, the smallest.
-/

namespace SexprQuery

open Datum (slotsPieces)

/-- The line of a list that is opened. -/
def Piece.openedOn? : Piece → Option (Option Nat)
  | .opening line => some line
  | _ => none

mutual
theorem Datum.map_line_nodes (d : Datum) :
    d.nodes.map Node.line = d.pieces.filterMap Piece.openedOn? := by
  cases d with
  | list line slots =>
    simp [Datum.nodes, Datum.pieces, Piece.openedOn?, map_line_slotsNodes slots]
  | _ => rfl
termination_by structural d

theorem map_line_slotsNodes (ds : List Datum) :
    (slotsNodes ds).map Node.line = (slotsPieces ds).filterMap Piece.openedOn? := by
  cases ds with
  | nil => rfl
  | cons d ds =>
    rw [slotsNodes, slotsPieces, List.map_append, List.filterMap_append, Datum.map_line_nodes d,
      map_line_slotsNodes ds]
termination_by structural ds
end

theorem filterMap_openedOn?_piece? (ts : List Token) :
    ts.filterMap (fun t => t.piece?.bind Piece.openedOn?) = (openingLines ts).map some := by
  induction ts with
  | nil => rfl
  | cons t ts ih =>
    obtain ⟨lexeme, line⟩ := t
    rw [openingLines_cons, List.filterMap_cons, ih]
    cases lexeme <;> rfl

/-- The nodes of forms stand on the lines of the tokens that open lists. -/
theorem map_line_of_pieces {ts : List Token} {ds : List Datum}
    (h : ts.map Token.piece? = (slotsPieces ds).map some) :
    (slotsNodes ds).map Node.line = (openingLines ts).map some := by
  have hopened := congrArg (List.filterMap (Option.bind · Piece.openedOn?)) h
  rw [List.filterMap_map, List.filterMap_map] at hopened
  rw [map_line_slotsNodes, ← filterMap_openedOn?_piece?]
  exact hopened.symm

theorem slotsNodes_eq_flatMap (ds : List Datum) : slotsNodes ds = ds.flatMap Datum.nodes := by
  induction ds with
  | nil => rfl
  | cons d ds ih => rw [slotsNodes, ih, List.flatMap_cons]

mutual
/-- The nodes below a node stand behind it, in their order. -/
theorem Datum.nodes_sublist {d : Datum} {m : Node} (h : m ∈ d.nodes) :
    List.Sublist m.nodes d.nodes := by
  cases d with
  | list line slots =>
    rcases List.mem_cons.mp h with rfl | hm
    · exact List.Sublist.refl _
    · exact (slotsNodes_sublist hm).cons _
  | _ => cases h
termination_by structural d

theorem slotsNodes_sublist {ds : List Datum} {m : Node} (h : m ∈ slotsNodes ds) :
    List.Sublist m.nodes (slotsNodes ds) := by
  cases ds with
  | nil => cases h
  | cons d ds =>
    rcases List.mem_append.mp h with hm | hm
    · exact (Datum.nodes_sublist hm).trans (List.sublist_append_left _ _)
    · exact (slotsNodes_sublist hm).trans (List.sublist_append_right _ _)
termination_by structural ds
end

/-! ### The largest line -/

/-- Where lines never decrease the largest one is the last. -/
theorem foldr_laterLine_of_pairwise {lines : List Nat} (h : lines.Pairwise (· ≤ ·)) :
    (lines.map some).foldr laterLine none = lines.getLast? := by
  induction lines with
  | nil => rfl
  | cons a lines ih =>
    rw [List.pairwise_cons] at h
    rw [List.map_cons, List.foldr_cons, ih h.2, List.getLast?_cons]
    cases hlast : lines.getLast? with
    | none => rfl
    | some b =>
      have hle := h.1 b (List.mem_of_getLast? hlast)
      simp [laterLine, hle]

section
variable {n : Node} {lines : List Nat}

/-- The lines in a tree are among those of the row that it stands in. -/
theorem exists_lines_of_mem {ds : List Datum} (hn : n ∈ slotsNodes ds)
    (hlines : (slotsNodes ds).map Node.line = lines.map some) :
    ∃ own, List.Sublist own lines ∧ n.nodes.map Node.line = own.map some := by
  have hsublist := (slotsNodes_sublist hn).map Node.line
  rw [hlines] at hsublist
  exact List.sublist_map_iff.mp hsublist

/-- The largest line in a tree is that of the last node of its walk. -/
theorem lastLine_eq_getLast? (hlines : n.nodes.map Node.line = lines.map some)
    (hle : lines.Pairwise (· ≤ ·)) :
    n.lastLine = n.walk.getLast?.bind fun found => found.2.line := by
  have hwalk : n.walk.map (fun found => found.2.line) = lines.map some := by
    rw [← hlines, ← n.map_snd_walk, List.map_map]
    rfl
  have hlast := congrArg List.getLast? hwalk
  rw [List.getLast?_map, List.getLast?_map] at hlast
  calc n.lastLine = (lines.map some).foldr laterLine none := by
        rw [← hlines, Node.lastLine, Datum.lastLine_eq_foldr]
        rfl
    _ = lines.getLast? := foldr_laterLine_of_pairwise hle
    _ = (lines.getLast?.map some).bind id := by cases lines.getLast? <;> rfl
    _ = (n.walk.getLast?.map fun found => found.2.line).bind id := by rw [hlast]
    _ = n.walk.getLast?.bind fun found => found.2.line := by cases n.walk.getLast? <;> rfl

/-- No node of a tree has a smaller line than its root. -/
theorem exists_line_le (hlines : n.nodes.map Node.line = lines.map some)
    (hle : lines.Pairwise (· ≤ ·)) {m : Node} (hm : m ∈ n.nodes) :
    ∃ a b, n.line = some a ∧ m.line = some b ∧ a ≤ b := by
  have hnodes : n.nodes = n :: slotsNodes n.slots := rfl
  cases lines with
  | nil => rw [hnodes] at hlines; cases hlines
  | cons a lines =>
    rw [hnodes, List.map_cons, List.map_cons, List.cons.injEq] at hlines
    rcases List.mem_cons.mp hm with rfl | hbelow
    · exact ⟨a, a, hlines.1, hlines.1, le_rfl⟩
    · have hline := List.mem_map_of_mem (f := Node.line) hbelow
      rw [hlines.2] at hline
      obtain ⟨b, hb, hmb⟩ := List.mem_map.mp hline
      exact ⟨a, b, hlines.1, hmb.symm, List.rel_of_pairwise_cons hle hb⟩

end

/-- **Lines of nodes.** The nodes of the forms that are read from a text, in pre-order, stand on
the lines of its opening parentheses in the order of the text: those of its tokens, which are
the ones outside of comments and literals. These lines never decrease, so the largest line in a
tree is that of the last node of its walk, and no node has a larger line than one below it.
Text of either kind cannot be scanned exactly if a literal in it has no end, and the error has
the line of the delimiter that opens it. -/
theorem node_lines_of_readAll (text : String) :
    (∀ forms, readAll text = .ok forms →
      (∃ ts, tokenize .data text.toList = .ok ts ∧
        openingLines ts = linesOfOpenings .data text.toList) ∧
      (forms.flatMap Datum.nodes).map Node.line = (linesOfOpenings .data text.toList).map some ∧
      (linesOfOpenings .data text.toList).Pairwise (· ≤ ·) ∧
      ∀ n ∈ forms.flatMap Datum.nodes,
        (n.lastLine = n.walk.getLast?.bind fun found => found.2.line) ∧
        ∀ m ∈ n.nodes, ∃ a b, n.line = some a ∧ m.line = some b ∧ a ≤ b) ∧
    ∀ kind cs e, tokenize kind cs = .error e ↔ ∃ before inside,
      Unterminated kind cs before e.delimiter inside ∧ e.line = 1 + before.count '\n' := by
  refine ⟨?_, tokenize_eq_error_iff⟩
  intro forms hforms
  obtain ⟨ts, hts, hread⟩ := exists_tokens_of_readAll hforms
  -- the lines go from the text to its tokens, and from these to the nodes
  have hopened := openingLines_of_tokenize hts
  have hspelled : ts.map Token.piece? = (slotsPieces forms).map some := by
    cases (readTokens_eq_iff_reads (lexeme_ne_regex_of_tokenize hts) _).mp hread with
    | forms _ _ spelled => exact spelled
  have hlines := map_line_of_pieces hspelled
  have hle := linesOfOpenings_pairwise .data text.toList
  rw [hopened] at hlines
  rw [← slotsNodes_eq_flatMap]
  refine ⟨⟨ts, hts, hopened⟩, hlines, hle, ?_⟩
  intro n hn
  obtain ⟨own, hsublist, hown⟩ := exists_lines_of_mem hn hlines
  have hownle := hle.sublist hsublist
  exact ⟨lastLine_eq_getLast? hown hownle, fun m hm => exists_line_le hown hownle hm⟩

/-- Parentheses in a string, in a quoted symbol and in a comment, and a line break in the
string; then a regular expression that goes on behind an escaped slash. -/
theorem node_lines_of_readAll_hidden_parentheses :
    readAll "(a \"(\n\" ; (\n #\"(\" (b))" =
      .ok [.list (some 1) [.sym "a", .str "(\n", .sym "(", .list (some 3) [.sym "b"]]] ∧
    ([.list (some 1) [.sym "a", .str "(\n", .sym "(", .list (some 3) [.sym "b"]]].flatMap
      Datum.nodes).map Node.line = [some 1, some 3] ∧
    tokenize .pattern "a\n/b\\/".toList = .error (.unterminatedRegex 2) := by
  have hread : readAll "(a \"(\n\" ; (\n #\"(\" (b))" =
      .ok [.list (some 1) [.sym "a", .str "(\n", .sym "(", .list (some 3) [.sym "b"]]] := by rfl
  have hopenings : (linesOfOpenings .data "(a \"(\n\" ; (\n #\"(\" (b))".toList).map some =
      [some 1, some 3] := by decide
  have hescaped : ∀ u v, ['b', '\\', '/'] = u ++ '/' :: v → escapedAfter false u = true := by
    rintro (_ | ⟨_, _ | ⟨_, _ | ⟨_, u⟩⟩⟩) v hsplit
    · cases hsplit
    · cases hsplit
    · cases hsplit
      rfl
    · simp at hsplit
  refine ⟨hread, ?_, ?_⟩
  · exact ((node_lines_of_readAll _).1 _ hread).2.1.trans hopenings
  · exact ((node_lines_of_readAll "").2 .pattern _ (.unterminatedRegex 2)).mpr
      ⟨['a', '\n'], ['b', '\\', '/'], ⟨rfl, .inr ⟨rfl, rfl, rfl⟩, hescaped⟩, rfl⟩

end SexprQuery
