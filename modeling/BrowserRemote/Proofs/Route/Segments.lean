import BrowserRemote.Proofs.Route.Decomposition
import BrowserRemote.Proofs.Route.Filling

/-!
# Proofs/Route/Segments — paths cut at their slashes

    /session/:id/url ──segments──▸ [], [session], [:id], [url]

Filling with texts that hold no slash and cutting at slashes commute (`splitOn_filled`), so a filled
path determines how each segment of its pattern was filled.  Two patterns are told apart for good
when they differ in a segment that both have no placeholder in (`apart`).
-/

namespace BrowserRemote

namespace Route

/-! ## Cutting -/

/-- A literal in front of segments: a slash starts a new one. -/
def cutLiteral : List Char → List (List Piece) → List (List Piece)
  | [], segs => segs
  | c :: cs, segs =>
    if c = '/' then [] :: cutLiteral cs segs else (cutLiteral cs segs).modifyHead (pushChar c)

/-- **The segments of a path**, in pieces. -/
def segments : List Piece → List (List Piece)
  | [] => [[]]
  | .literal cs :: ps => cutLiteral cs (segments ps)
  | .slot name :: ps => (segments ps).modifyHead (.slot name :: ·)

/-- A segment filled. -/
def filledSegment (text : List Char → List Char) (seg : List Piece) : List Char :=
  seg.flatMap (Piece.filled text)

theorem filledSegment_pushChar (text : List Char → List Char) (c : Char) :
    ∀ seg : List Piece, filledSegment text (pushChar c seg) = c :: filledSegment text seg
  | [] | .literal _ :: _ | .slot _ :: _ => rfl

theorem map_filledSegment_modifyHead {text : List Char → List Char} {f : List Piece → List Piece}
    {g : List Char → List Char}
    (h : ∀ seg, filledSegment text (f seg) = g (filledSegment text seg)) :
    ∀ segs : List (List Piece), (segs.modifyHead f).map (filledSegment text)
      = (segs.map (filledSegment text)).modifyHead g
  | [] => rfl
  | seg :: segs => congrArg (· :: segs.map (filledSegment text)) (h seg)

/-! ## Filling and cutting commute -/

theorem splitOn_slash (cs : List Char) :
    ('/' :: cs).splitOn '/' = [] :: cs.splitOn '/' := by
  rw [List.splitOn_eq_splitOnP, List.splitOnP_cons_eq_if_modifyHead, if_pos (by decide),
    ← List.splitOn_eq_splitOnP]

theorem splitOn_cons_of_ne {c : Char} (h : c ≠ '/') (cs : List Char) :
    (c :: cs).splitOn '/' = (cs.splitOn '/').modifyHead (c :: ·) := by
  have hc : ¬ (c == '/') = true := by rwa [beq_iff_eq]
  rw [List.splitOn_eq_splitOnP, List.splitOnP_cons_eq_if_modifyHead, if_neg hc,
    ← List.splitOn_eq_splitOnP]

/-- A text without a slash goes to the first segment of what is behind it. -/
theorem splitOn_append_of_not_mem {w : List Char} (h : '/' ∉ w) (cs : List Char) :
    (w ++ cs).splitOn '/' = (cs.splitOn '/').modifyHead (w ++ ·) := by
  induction w with
  | nil => exact (congrFun List.modifyHead_id _).symm
  | cons c w ih =>
    obtain ⟨hc, hw⟩ := not_or.1 (mt List.mem_cons.2 h)
    rw [List.cons_append, splitOn_cons_of_ne (Ne.symm hc), ih hw, List.modifyHead_modifyHead]
    rfl

/-- A literal is cut character by character. -/
theorem splitOn_cutLiteral {text : List Char → List Char} {segs : List (List Piece)}
    {rest : List Char} (h : rest.splitOn '/' = segs.map (filledSegment text)) (cs : List Char) :
    (cs ++ rest).splitOn '/' = (cutLiteral cs segs).map (filledSegment text) := by
  induction cs with
  | nil => exact h
  | cons c cs ih =>
    by_cases hc : c = '/'
    · subst hc
      rw [List.cons_append, splitOn_slash, ih, cutLiteral, if_pos rfl]
      rfl
    · rw [List.cons_append, splitOn_cons_of_ne hc, ih, cutLiteral, if_neg hc,
        map_filledSegment_modifyHead (filledSegment_pushChar text c)]

/-- **Cutting a filled path at its slashes gives the filled segments.** -/
theorem splitOn_filled {text : List Char → List Char} : ∀ {ps : List Piece},
    (∀ q ∈ slots ps, '/' ∉ text q) →
      (ps.flatMap (Piece.filled text)).splitOn '/' = (segments ps).map (filledSegment text)
  | [], _ => rfl
  | .literal cs :: ps, h => splitOn_cutLiteral (@splitOn_filled text ps h) cs
  | .slot name :: ps, h => by
    have ih : (ps.flatMap (Piece.filled text)).splitOn '/'
        = (segments ps).map (filledSegment text) :=
      splitOn_filled fun q hq => h q (List.mem_cons_of_mem name hq)
    have hfirst : ∀ seg : List Piece,
        filledSegment text (.slot name :: seg) = text name ++ filledSegment text seg :=
      fun seg => rfl
    rw [List.flatMap_cons, Piece.filled, splitOn_append_of_not_mem (h name List.mem_cons_self), ih,
      segments, map_filledSegment_modifyHead hfirst]

/-- **Slash-free texts leave the segments of a path apart**: two paths filled alike are filled
alike segment by segment. -/
theorem map_filledSegment_eq {text text' : List Char → List Char} {ps ps' : List Piece}
    (h : ∀ q ∈ slots ps, '/' ∉ text q) (h' : ∀ q ∈ slots ps', '/' ∉ text' q)
    (heq : ps.flatMap (Piece.filled text) = ps'.flatMap (Piece.filled text')) :
    (segments ps).map (filledSegment text) = (segments ps').map (filledSegment text') := by
  rw [← splitOn_filled h, heq, splitOn_filled h']

/-! ## Placeholders that have a segment to themselves -/

/-- A placeholder pushed into no segment stays where it is. -/
theorem exists_slot_mem_modifyHead {q : List Char} {f : List Piece → List Piece}
    (hf : ∀ seg, .slot q ∈ seg → .slot q ∈ f seg) : ∀ {segs : List (List Piece)},
      (∃ seg ∈ segs, .slot q ∈ seg) → ∃ seg ∈ segs.modifyHead f, .slot q ∈ seg
  | [], h => h
  | seg :: segs, ⟨seg', hmem, hq⟩ => by
    rcases List.mem_cons.1 hmem with rfl | hmem
    · exact ⟨f seg', List.mem_cons_self, hf seg' hq⟩
    · exact ⟨seg', List.mem_cons_of_mem _ hmem, hq⟩

theorem slot_mem_pushChar {q : List Char} (c : Char) :
    ∀ seg : List Piece, .slot q ∈ seg → .slot q ∈ pushChar c seg
  | .literal _ :: _, h => List.mem_cons_of_mem _ ((List.mem_cons.1 h).resolve_left nofun)
  | .slot _ :: _, h => List.mem_cons_of_mem _ h

theorem exists_slot_mem_cutLiteral {q : List Char} {segs : List (List Piece)}
    (h : ∃ seg ∈ segs, .slot q ∈ seg) :
    ∀ cs : List Char, ∃ seg ∈ cutLiteral cs segs, .slot q ∈ seg
  | [] => h
  | c :: cs => by
    obtain ⟨seg, hseg, hq⟩ := exists_slot_mem_cutLiteral h cs
    rw [cutLiteral]
    split
    · exact ⟨seg, List.mem_cons_of_mem _ hseg, hq⟩
    · exact exists_slot_mem_modifyHead (slot_mem_pushChar c) ⟨seg, hseg, hq⟩

theorem segments_ne_nil : ∀ ps : List Piece, segments ps ≠ []
  | [] => List.cons_ne_nil _ _
  | .literal cs :: ps => by
    rw [segments]
    induction cs with
    | nil => exact segments_ne_nil ps
    | cons c cs ih =>
      rw [cutLiteral]
      split
      · exact List.cons_ne_nil _ _
      · exact mt List.modifyHead_eq_nil_iff.1 ih
  | .slot name :: ps => mt List.modifyHead_eq_nil_iff.1 (segments_ne_nil ps)

/-- **Every placeholder stands in a segment.** -/
theorem exists_segment_of_mem_slots {q : List Char} : ∀ {ps : List Piece}, q ∈ slots ps →
    ∃ seg ∈ segments ps, .slot q ∈ seg
  | .literal cs :: ps, h => exists_slot_mem_cutLiteral (@exists_segment_of_mem_slots q ps h) cs
  | .slot name :: ps, h => by
    rw [segments]
    rcases List.mem_cons.1 h with rfl | h
    · obtain ⟨seg, segs, hsegs⟩ := List.exists_cons_of_ne_nil (segments_ne_nil ps)
      rw [hsegs]
      exact ⟨.slot q :: seg, List.mem_cons_self, List.mem_cons_self⟩
    · exact exists_slot_mem_modifyHead (fun seg => List.mem_cons_of_mem _)
        (exists_segment_of_mem_slots h)

/-- Every segment is a single piece, or empty. -/
def Solitary (segs : List (List Piece)) : Prop := ∀ seg ∈ segs, seg.length ≤ 1

/-- **A placeholder alone in its segment is read off the filled path.** -/
theorem text_eq_of_filled_eq {text text' : List Char → List Char} {ps : List Piece}
    (hps : Solitary (segments ps))
    (h : (segments ps).map (filledSegment text) = (segments ps).map (filledSegment text'))
    {q : List Char} (hq : q ∈ slots ps) : text q = text' q := by
  obtain ⟨seg, hseg, hslot⟩ := exists_segment_of_mem_slots hq
  obtain ⟨p, rfl⟩ : ∃ p, seg = [p] :=
    List.length_eq_one_iff.1 (Nat.le_antisymm (hps seg hseg) (List.length_pos_of_mem hslot))
  obtain rfl : Piece.slot q = p := List.mem_singleton.1 hslot
  have hfilled : filledSegment text [.slot q] = filledSegment text' [.slot q] :=
    List.map_inj_left.1 h [.slot q] hseg
  rwa [filledSegment, filledSegment, List.flatMap_singleton, List.flatMap_singleton] at hfilled

/-! ## Patterns that no filling makes equal -/

/-- The text of a segment without a placeholder. -/
def fixed? : List Piece → Option (List Char)
  | [] => some []
  | .literal cs :: ps => (cs ++ ·) <$> fixed? ps
  | .slot _ :: _ => none

theorem filledSegment_of_fixed? {text : List Char → List Char} : ∀ {seg : List Piece}
    {w : List Char}, fixed? seg = some w → filledSegment text seg = w
  | [], w, h => Option.some.inj h
  | .literal cs :: ps, w, h => by
    obtain ⟨rest, hrest, rfl⟩ := Option.map_eq_some_iff.1 h
    have ih : filledSegment text ps = rest := filledSegment_of_fixed? hrest
    rw [← ih]
    rfl

/-- Two segments without placeholders and with different texts. -/
def segmentsDiffer (seg seg' : List Piece) : Bool :=
  match fixed? seg, fixed? seg' with
  | some w, some w' => w != w'
  | _, _ => false

/-- **Patterns told apart**: by the count of their segments, or by one of them. -/
def apart : List (List Piece) → List (List Piece) → Bool
  | [], [] => false
  | seg :: segs, seg' :: segs' => segmentsDiffer seg seg' || apart segs segs'
  | _, _ => true

theorem filledSegment_ne_of_segmentsDiffer {seg seg' : List Piece}
    (h : segmentsDiffer seg seg' = true) (text text' : List Char → List Char) :
    filledSegment text seg ≠ filledSegment text' seg' := by
  unfold segmentsDiffer at h
  split at h
  · next w w' hw hw' =>
    rw [filledSegment_of_fixed? hw, filledSegment_of_fixed? hw']
    exact bne_iff_ne.1 h
  · exact absurd h Bool.false_ne_true

/-- **No filling makes patterns equal that are told apart.** -/
theorem map_filledSegment_ne_of_apart {text text' : List Char → List Char} :
    ∀ {segs segs' : List (List Piece)}, apart segs segs' = true →
      segs.map (filledSegment text) ≠ segs'.map (filledSegment text')
  | [], [], h, _ => Bool.false_ne_true h
  | [], seg' :: segs', _, e => List.cons_ne_nil _ _ e.symm
  | seg :: segs, [], _, e => List.cons_ne_nil _ _ e
  | seg :: segs, seg' :: segs', h, e => by
    obtain ⟨hseg, hsegs⟩ := List.cons.inj e
    rcases Bool.or_eq_true_iff.1 h with h | h
    · exact filledSegment_ne_of_segmentsDiffer h text text' hseg
    · exact map_filledSegment_ne_of_apart h hsegs

end Route

/-! ## Templates told apart -/

namespace Template

/-- The method of a template and the segments of its path, if both are texts. -/
def outline? : Template → Option (String × List (List Route.Piece))
  | ⟨.str method, .str path⟩ => some (method, Route.segments (Route.pieces path.toList))
  | _ => none

/-- Every placeholder has a segment of the path to itself. -/
def isPlain (t : Template) : Bool :=
  match t.outline? with
  | some (_, segs) => segs.all (·.length ≤ 1)
  | none => false

/-- **Templates whose requests differ**, whatever the placeholders are filled with. -/
def isDistinct (t t' : Template) : Bool :=
  match t.outline?, t'.outline? with
  | some (method, segs), some (method', segs') => method != method' || Route.apart segs segs'
  | _, _ => false

/-- The path of a template, filled with texts that hold no slash. -/
def FilledBy (t : Template) (text : List Char → List Char) (path : List Char) : Prop :=
  ∃ route, t.path = .str route ∧ (∀ q ∈ Route.slots (Route.pieces route.toList), '/' ∉ text q)
    ∧ path = (Route.pieces route.toList).flatMap (Route.Piece.filled text)

/-- Two templates can give the same request. -/
def Meets (t t' : Template) : Prop :=
  ∃ text text' path, t.FilledBy text path ∧ t'.FilledBy text' path ∧ t.method = t'.method

theorem Meets.symm {t t' : Template} : t.Meets t' → t'.Meets t :=
  fun ⟨text, text', path, ht, ht', hmethod⟩ => ⟨text', text, path, ht', ht, hmethod.symm⟩

theorem outline?_eq_some {t : Template} {method : String} {segs : List (List Route.Piece)}
    (h : t.outline? = some (method, segs)) : ∃ route, t = ⟨.str method, .str route⟩
      ∧ segs = Route.segments (Route.pieces route.toList) := by
  unfold outline? at h
  split at h
  · next m route =>
    obtain ⟨rfl, rfl⟩ := Prod.mk.inj (Option.some.inj h)
    exact ⟨route, rfl, rfl⟩
  · exact absurd h nofun

theorem solitary_of_isPlain {t : Template} (h : t.isPlain = true) :
    ∃ method route, t = ⟨.str method, .str route⟩
      ∧ Route.Solitary (Route.segments (Route.pieces route.toList)) := by
  unfold isPlain at h
  split at h
  · next method segs hsegs =>
    obtain ⟨route, rfl, rfl⟩ := outline?_eq_some hsegs
    exact ⟨method, route, rfl, fun seg hseg => of_decide_eq_true (List.all_eq_true.1 h seg hseg)⟩
  · exact absurd h Bool.false_ne_true

/-- Templates are distinct by their methods or by their paths. -/
theorem differ_of_isDistinct {t t' : Template} (h : t.isDistinct t' = true) :
    ∃ m route m' route', t = ⟨.str m, .str route⟩ ∧ t' = ⟨.str m', .str route'⟩
      ∧ (m ≠ m' ∨ Route.apart (Route.segments (Route.pieces route.toList))
          (Route.segments (Route.pieces route'.toList)) = true) := by
  unfold isDistinct at h
  split at h
  · next m segs m' segs' hsegs hsegs' =>
    obtain ⟨route, rfl, rfl⟩ := outline?_eq_some hsegs
    obtain ⟨route', rfl, rfl⟩ := outline?_eq_some hsegs'
    exact ⟨m, route, m', route', rfl, rfl, (Bool.or_eq_true_iff.1 h).imp_left bne_iff_ne.1⟩
  · exact absurd h Bool.false_ne_true

/-- **Distinct templates never give the same request.** -/
theorem not_meets_of_isDistinct {t t' : Template} (h : t.isDistinct t' = true) :
    ¬ t.Meets t' := by
  rintro ⟨text, text', path, ht, ht', hmethod⟩
  obtain ⟨m, route, m', route', rfl, rfl, hdiffer⟩ := differ_of_isDistinct h
  obtain ⟨_, ⟨⟩, hslash, hpath⟩ := ht
  obtain ⟨_, ⟨⟩, hslash', hpath'⟩ := ht'
  rcases hdiffer with hm | hapart
  · exact hm (Value.str.inj hmethod)
  · exact Route.map_filledSegment_ne_of_apart hapart
      (Route.map_filledSegment_eq hslash hslash' (hpath.symm.trans hpath'))

/-- **The path of a plain template tells what it was filled with.** -/
theorem text_eq_of_isPlain {t : Template} (h : t.isPlain = true)
    {text text' : List Char → List Char} {path : List Char} (ht : t.FilledBy text path)
    (ht' : t.FilledBy text' path) {qs : List String} (hqs : t.placeholders = .ok qs) {q : String}
    (hq : q ∈ qs) : text q.toList = text' q.toList := by
  obtain ⟨method, route, rfl, hsolitary⟩ := solitary_of_isPlain h
  obtain ⟨_, ⟨⟩, hslash, hpath⟩ := ht
  obtain ⟨_, ⟨⟩, hslash', hpath'⟩ := ht'
  obtain rfl : (Route.slots (Route.pieces route.toList)).map String.ofList = qs := Except.ok.inj hqs
  obtain ⟨name, hname, rfl⟩ := List.mem_map.1 hq
  rw [String.toList_ofList]
  exact Route.text_eq_of_filled_eq hsolitary
    (Route.map_filledSegment_eq hslash hslash' (hpath.symm.trans hpath')) hname

end Template

end BrowserRemote
