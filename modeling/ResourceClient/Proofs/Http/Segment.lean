import Mathlib
import ResourceClient.Http.Replay

/-! # The last segment of a path

    Whether a post may be replayed is told by the last segment of its path.
    `IsLastSegment` says what that is without saying how it is found: the
    path is cut into four parts, of which the segment is the second one
    (`CutsAs`).  Every path has exactly one last segment, and `lastSegment`
    finds it (`lastSegment_eq_iff`).

    So the last segment of a path that was joined from a resource and the
    name of an endpoint is that name, whatever the resource is, as long as
    it has no query (`lastSegment_append`). -/

namespace ResourceClient.Http

/-- A path is cut into what stands before its last segment, the segment, the
    solidi at its end, and its query.  The segment is empty only if nothing
    but solidi is left of the path. -/
structure CutsAs (path before segment slashes query : List Char) : Prop where
  /-- The parts make up the path. -/
  path_eq : path = before ++ segment ++ slashes ++ query
  /-- The query starts with the first question mark. -/
  mark : '?' ∉ before ++ segment ++ slashes
  /-- There may be no query. -/
  query_eq : query = [] ∨ ∃ rest, query = '?' :: rest
  /-- Behind the segment there are only solidi. -/
  slashes_eq : ∀ c ∈ slashes, c = '/'
  /-- The segment has none. -/
  segment_plain : '/' ∉ segment
  /-- It stands at the start, or after a solidus. -/
  before_eq : before = [] ∨ segment ≠ [] ∧ ∃ rest, before = rest ++ ['/']

/-- The last segment of a path: the query is cut off at the first question
    mark, then all solidi at the end, and the segment is what stands after
    the last solidus that is left. -/
def IsLastSegment (path segment : String) : Prop :=
  ∃ before slashes query, CutsAs path.toList before segment.toList slashes query

/-- The last segment is found wherever the path is cut. -/
theorem toList_lastSegment_of_cutsAs {path : String} {before segment slashes query : List Char}
    (h : CutsAs path.toList before segment slashes query) :
    (lastSegment path).toList = segment := by
  have hquery : path.toList.takeWhile (· != '?') = before ++ segment ++ slashes := by
    have hall : ∀ c ∈ before ++ segment ++ slashes, (c != '?') = true := by
      intro c hc
      rw [bne_iff_ne]
      rintro rfl
      exact h.mark hc
    rw [h.path_eq, List.takeWhile_append_of_pos hall]
    rcases h.query_eq with rfl | ⟨rest, rfl⟩
    · rw [List.takeWhile_nil, List.append_nil]
    · rw [List.takeWhile_cons_of_neg (by simp), List.append_nil]
  have htrimmed : (before ++ segment ++ slashes).reverse.dropWhile (· == '/') =
      segment.reverse ++ before.reverse := by
    have hall : ∀ c ∈ slashes.reverse, (c == '/') = true := by
      intro c hc
      rw [beq_iff_eq]
      exact h.slashes_eq c (List.mem_reverse.1 hc)
    rw [List.reverse_append, List.dropWhile_append_of_pos hall, List.reverse_append]
    -- the segment does not end with a solidus, and if it is empty, nothing is before it
    rcases List.eq_nil_or_concat segment with hempty | ⟨start, last, hlast⟩
    · rcases h.before_eq with rfl | ⟨hne, -⟩
      · rw [hempty]
        rfl
      · exact absurd hempty hne
    · have hne : last ≠ '/' := by
        rintro rfl
        exact h.segment_plain (by simp [hlast])
      rw [hlast, List.concat_eq_append, List.reverse_append]
      exact List.dropWhile_cons_of_neg (by simpa using hne)
  have hsegment : (segment.reverse ++ before.reverse).takeWhile (· != '/') = segment.reverse := by
    have hall : ∀ c ∈ segment.reverse, (c != '/') = true := by
      intro c hc
      rw [bne_iff_ne]
      rintro rfl
      exact h.segment_plain (List.mem_reverse.1 hc)
    rw [List.takeWhile_append_of_pos hall]
    rcases h.before_eq with rfl | ⟨-, rest, rfl⟩
    · exact List.append_nil _
    · rw [List.reverse_append]
      exact List.append_nil _
  unfold lastSegment
  rw [hquery]
  show (String.ofList (((before ++ segment ++ slashes).reverse.dropWhile (· == '/')).takeWhile
    (· != '/')).reverse).toList = segment
  rw [htrimmed, hsegment, List.reverse_reverse, String.toList_ofList]

/-- Every path can be cut. -/
theorem exists_cutsAs (path : List Char) :
    ∃ before segment slashes query, CutsAs path before segment slashes query := by
  let cs := path.takeWhile (· != '?')
  let trimmed := cs.reverse.dropWhile (· == '/')
  have hcs : cs = (trimmed.dropWhile (· != '/')).reverse ++
      (trimmed.takeWhile (· != '/')).reverse ++ (cs.reverse.takeWhile (· == '/')).reverse := by
    rw [← List.reverse_append, List.takeWhile_append_dropWhile, ← List.reverse_append,
      List.takeWhile_append_dropWhile, List.reverse_reverse]
  refine ⟨(trimmed.dropWhile (· != '/')).reverse, (trimmed.takeWhile (· != '/')).reverse,
    (cs.reverse.takeWhile (· == '/')).reverse, path.dropWhile (· != '?'), ?_, ?_, ?_, ?_, ?_, ?_⟩
  · rw [← hcs, List.takeWhile_append_dropWhile]
  · rw [← hcs]
    intro hmem
    simpa using List.mem_takeWhile_imp hmem
  · cases hquery : path.dropWhile (· != '?') with
    | nil => exact Or.inl rfl
    | cons c rest =>
      have hhead := List.head?_dropWhile_not (· != '?') path
      rw [hquery] at hhead
      obtain rfl : c = '?' := by simpa using hhead
      exact Or.inr ⟨rest, rfl⟩
  · intro c hc
    simpa using List.mem_takeWhile_imp (List.mem_reverse.1 hc)
  · intro hmem
    simpa using List.mem_takeWhile_imp (List.mem_reverse.1 hmem)
  · cases hbefore : trimmed.dropWhile (· != '/') with
    | nil => exact Or.inl rfl
    | cons c rest =>
      have hhead := List.head?_dropWhile_not (· != '/') trimmed
      rw [hbefore] at hhead
      obtain rfl : c = '/' := by simpa using hhead
      refine Or.inr ⟨?_, rest.reverse, List.reverse_cons⟩
      -- an empty segment would leave a solidus at the end of the trimmed path
      intro hempty
      have hsolidus : trimmed = '/' :: rest := by
        rw [← hbefore, ← List.takeWhile_append_dropWhile (p := (· != '/')) (l := trimmed),
          List.reverse_eq_nil_iff.1 hempty, List.nil_append, List.dropWhile_idempotent]
      have htrimmed := List.head?_dropWhile_not (· == '/') cs.reverse
      rw [show cs.reverse.dropWhile (· == '/') = '/' :: rest from hsolidus] at htrimmed
      simp at htrimmed

/-- Every path has one last segment, which is the one that is found. -/
theorem lastSegment_eq_iff {path segment : String} :
    lastSegment path = segment ↔ IsLastSegment path segment := by
  constructor
  · rintro rfl
    obtain ⟨before, segment, slashes, query, hcuts⟩ := exists_cutsAs path.toList
    refine ⟨before, slashes, query, ?_⟩
    rwa [toList_lastSegment_of_cutsAs hcuts]
  · rintro ⟨before, slashes, query, hcuts⟩
    exact String.toList_inj.1 (toList_lastSegment_of_cutsAs hcuts)

instance (path segment : String) : Decidable (IsLastSegment path segment) :=
  decidable_of_iff _ lastSegment_eq_iff

/-- The last segment of a resource with an endpoint is the name of the
    endpoint. -/
theorem isLastSegment_append {resource suffix name : String} (hquery : '?' ∉ resource.toList)
    (hsuffix : suffix.toList = '/' :: name.toList) (hname : name.toList ≠ [])
    (hplain : '/' ∉ name.toList ∧ '?' ∉ name.toList) :
    IsLastSegment (resource ++ suffix) name := by
  refine ⟨resource.toList ++ ['/'], [], [], ?_, ?_, Or.inl rfl, by simp, hplain.1,
    Or.inr ⟨hname, _, rfl⟩⟩
  · simp [hsuffix]
  · simp [hquery, hplain.2]

/-- A path at which a post only reads, by its last segment. -/
def IsReadingPath (path : String) : Prop :=
  ∃ name ∈ ["list", "byids", "search", "aggregate"], IsLastSegment path name

instance (path : String) : Decidable (IsReadingPath path) :=
  inferInstanceAs
    (Decidable (∃ name ∈ ["list", "byids", "search", "aggregate"], IsLastSegment path name))

/-- A post may be replayed at the paths at which it only reads. -/
theorem mayReplay_post_iff {path : String} : mayReplay .post path = true ↔ IsReadingPath path := by
  have hpost : mayReplay .post path = readingEndpoints.contains (lastSegment path) := rfl
  rw [hpost, List.contains_iff_mem]
  constructor
  · intro hmem
    exact ⟨_, hmem, lastSegment_eq_iff.1 rfl⟩
  · rintro ⟨name, hname, hlast⟩
    rwa [lastSegment_eq_iff.2 hlast]

/-- At an endpoint of a resource this is a matter of the endpoint. -/
theorem isReadingPath_append {resource suffix name : String} (hquery : '?' ∉ resource.toList)
    (hsuffix : suffix.toList = '/' :: name.toList) (hname : name.toList ≠ [])
    (hplain : '/' ∉ name.toList ∧ '?' ∉ name.toList) :
    IsReadingPath (resource ++ suffix) ↔ name ∈ ["list", "byids", "search", "aggregate"] := by
  have hlast := isLastSegment_append hquery hsuffix hname hplain
  constructor
  · rintro ⟨other, hmem, hother⟩
    -- there is one last segment only
    rwa [← lastSegment_eq_iff.2 hlast, lastSegment_eq_iff.2 hother]
  · intro hmem
    exact ⟨name, hmem, hlast⟩

end ResourceClient.Http
