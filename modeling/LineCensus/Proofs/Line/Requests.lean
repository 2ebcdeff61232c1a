import LineCensus.Proofs.Line.Reading

/-!
# Reading a file by requests

A file can be read without ever holding more of it than one line: each request asks for the bytes up
to the next line feed, but for no more than one byte above the limit.  What it gives ends with a
line feed, or at the end of the file, or within a line that is too long.  Reading in this way gives
the lines of the whole content, and so does the reading byte by byte; both fail at once if no such
request can be made.
-/

namespace LineCensus.Line

/-- The bytes that a request gives, and those that are left: no more than `size`, and none beyond
the first line feed. -/
def request : (size : Nat) → List UInt8 → List UInt8 × List UInt8
  | 0, content => ([], content)
  | _ + 1, [] => ([], [])
  | size + 1, b :: rest =>
    if b = lineFeed then ([b], rest)
    else
      let (given, left) := request size rest
      (b :: given, left)

def dropFeed (given : List UInt8) : List UInt8 :=
  if given.getLast? = some lineFeed then given.dropLast else given

/-! ## One request -/

theorem request_append_left (size : Nat) (content : List UInt8) :
    (request size content).1 ++ (request size content).2 = content := by
  fun_induction request size content with
  | case1 => rfl
  | case2 => rfl
  | case3 => rfl
  | case4 size b rest hb given left hrequest ih =>
    rw [hrequest] at ih
    rw [List.cons_append, ih]

theorem request_append {start : List UInt8} (hfeed : lineFeed ∉ start) {size : Nat}
    (hsize : start.length ≤ size) (rest : List UInt8) :
    request size (start ++ rest) =
      (start ++ (request (size - start.length) rest).1,
        (request (size - start.length) rest).2) := by
  induction start generalizing size with
  | nil => rfl
  | cons b more ih =>
    rw [List.mem_cons, not_or] at hfeed
    cases size with
    | zero => cases hsize
    | succ size =>
      have hmore := ih hfeed.2 (Nat.le_of_succ_le_succ hsize)
      simp [request, Ne.symm hfeed.1, hmore]

theorem request_line {line : List UInt8} (hfeed : lineFeed ∉ line) {size : Nat}
    (hsize : line.length < size) (rest : List UInt8) :
    request size (line ++ lineFeed :: rest) = (line ++ [lineFeed], rest) := by
  obtain ⟨room, hroom⟩ := Nat.exists_eq_add_of_lt hsize
  have hleft : size - line.length = room + 1 := by omega
  rw [request_append hfeed (Nat.le_of_lt hsize), hleft]
  simp [request]

theorem request_last {line : List UInt8} (hfeed : lineFeed ∉ line) {size : Nat}
    (hsize : line.length ≤ size) : request size line = (line, []) := by
  have hnone : ∀ n, request n [] = ([], []) := fun n => by cases n <;> rfl
  have happend := request_append hfeed hsize []
  rw [hnone, List.append_nil] at happend
  exact happend

theorem request_long {line : List UInt8} (hfeed : lineFeed ∉ line) {size : Nat}
    (hsize : size ≤ line.length) (rest : List UInt8) :
    request size (line ++ rest) = (line.take size, line.drop size ++ rest) := by
  have hlength : (line.take size).length = size := by
    rw [List.length_take, Nat.min_eq_left hsize]
  have happend := request_append (fun h => hfeed (List.mem_of_mem_take h)) (Nat.le_of_eq hlength)
    (line.drop size ++ rest)
  rw [← List.append_assoc, List.take_append_drop, hlength, Nat.sub_self, request,
    List.append_nil] at happend
  exact happend

/-! ## All requests -/

def ask (size : Nat) (content : List UInt8) : Except Oversized (List UInt8 × List UInt8) :=
  if size ≤ largestRequest then .ok (request size content) else .error ⟨size⟩

theorem append_eq_of_ask {size : Nat} {content given left : List UInt8}
    (h : ask size content = .ok (given, left)) : given ++ left = content := by
  rw [ask] at h
  split at h
  · have hparts := request_append_left size content
    rwa [Except.ok.inj h] at hparts
  · cases h

/-- Goes on reading by requests; `found` holds the lines so far, last first. -/
def readByRequests (limit : Nat) (found : List (List UInt8)) (content : List UInt8) :
    Except Oversized Reading :=
  match hask : ask (limit + 1) content with
  | .error e => .error e
  | .ok (given, left) =>
    if hgiven : given = [] then .ok ⟨found.reverse, none⟩
    else
      let line := dropFeed given
      if limit < line.length then .ok ⟨found.reverse, some ⟨found.length + 1, limit⟩⟩
      else readByRequests limit (line :: found) left
termination_by content.length
decreasing_by
  -- a request that gives something leaves less than there was
  have hlength := congrArg List.length (append_eq_of_ask hask)
  have hpos : 0 < given.length := List.length_pos_iff.mpr hgiven
  rw [List.length_append] at hlength
  omega

theorem readByRequests_of_le {limit : Nat} (hlimit : largestRequest ≤ limit)
    (found : List (List UInt8)) (content : List UInt8) :
    readByRequests limit found content = .error ⟨limit + 1⟩ := by
  have hask : ask (limit + 1) content = .error ⟨limit + 1⟩ :=
    if_neg (Nat.not_le.mpr (Nat.lt_succ_of_le hlimit))
  rw [readByRequests]
  split
  · next he =>
    cases he.symm.trans hask
    rfl
  · next h => rw [hask] at h; cases h

theorem dropFeed_of_not_mem {given : List UInt8} (hfeed : lineFeed ∉ given) :
    dropFeed given = given :=
  if_neg fun hlast => hfeed (List.mem_of_getLast? hlast)

theorem dropFeed_concat (line : List UInt8) : dropFeed (line ++ [lineFeed]) = line := by
  simp [dropFeed]

section Possible

variable {limit : Nat} (hlimit : limit < largestRequest)

include hlimit

theorem readByRequests_of_request {content given left : List UInt8}
    (h : request (limit + 1) content = (given, left)) (hne : given ≠ [])
    (found : List (List UInt8)) :
    readByRequests limit found content =
      if limit < (dropFeed given).length then .ok ⟨found.reverse, some ⟨found.length + 1, limit⟩⟩
      else readByRequests limit (dropFeed given :: found) left := by
  have hask : ask (limit + 1) content = .ok (given, left) := (if_pos hlimit).trans (by rw [h])
  rw [readByRequests]
  split
  · next he => rw [hask] at he; cases he
  · next hok =>
    rw [hask] at hok
    cases hok
    rw [dif_neg hne]

theorem readByRequests_nil (found : List (List UInt8)) :
    readByRequests limit found [] = .ok ⟨found.reverse, none⟩ := by
  have hask : ask (limit + 1) [] = .ok ([], []) := if_pos hlimit
  rw [readByRequests]
  split
  · next he => rw [hask] at he; cases he
  · next hok =>
    rw [hask] at hok
    cases hok
    rfl

/-- A line beyond the limit is found out by the one byte that is asked for above it. -/
theorem readByRequests_long {line : List UInt8} (hfeed : lineFeed ∉ line)
    (hlong : limit < line.length) (rest : List UInt8) (found : List (List UInt8)) :
    readByRequests limit found (line ++ rest) =
      .ok ⟨found.reverse, some ⟨found.length + 1, limit⟩⟩ := by
  have hlength : (line.take (limit + 1)).length = limit + 1 := by
    rw [List.length_take, Nat.min_eq_left hlong]
  have hne : line.take (limit + 1) ≠ [] := List.ne_nil_of_length_eq_add_one hlength
  rw [readByRequests_of_request hlimit (request_long hfeed hlong rest) hne,
    dropFeed_of_not_mem fun h => hfeed (List.mem_of_mem_take h), hlength,
    if_pos (Nat.lt_succ_self limit)]

theorem readByRequests_eq_after (found : List (List UInt8)) (content : List UInt8) :
    readByRequests limit found content =
      .ok ((Reading.ofLines limit (physicalLines content)).after found) := by
  induction content using lines_induction generalizing found with
  | nil => rw [readByRequests_nil hlimit, physicalLines_nil, Reading.ofLines_nil]
  | last line hfeed hne =>
    rw [physicalLines_of_not_mem hfeed hne]
    by_cases hfits : line.length ≤ limit
    · rw [readByRequests_of_request hlimit (request_last hfeed (Nat.le_succ_of_le hfits)) hne,
        dropFeed_of_not_mem hfeed, if_neg (Nat.not_lt.mpr hfits), readByRequests_nil hlimit,
        Reading.ofLines_cons hfits, Reading.ofLines_nil]
    · have hlong := Nat.lt_of_not_le hfits
      have hread := readByRequests_long hlimit hfeed hlong [] found
      rw [List.append_nil] at hread
      rw [hread, Reading.ofLines_long hlong]
  | line line rest hfeed ih =>
    rw [physicalLines_append_cons hfeed]
    by_cases hfits : line.length ≤ limit
    · -- a line of just the limit is given whole, since its line feed is the byte above it
      rw [readByRequests_of_request hlimit (request_line hfeed (Nat.lt_succ_of_le hfits) rest)
          (by simp),
        dropFeed_concat, if_neg (Nat.not_lt.mpr hfits), ih, Reading.ofLines_cons hfits]
    · have hlong := Nat.lt_of_not_le hfits
      rw [readByRequests_long hlimit hfeed hlong, Reading.ofLines_long hlong]

end Possible

theorem Reading.ofLines_eq_takeWhile (limit : Nat) (lines : List (List UInt8)) :
    ofLines limit lines =
      ⟨lines.takeWhile fun line => line.length ≤ limit,
        (lines.findIdx? fun line => limit < line.length).map fun i => ⟨i + 1, limit⟩⟩ := by
  have hover : (fun line : List UInt8 => !decide (line.length ≤ limit)) =
      fun line => decide (limit < line.length) := by
    funext line
    rw [← decide_not, decide_eq_decide, Nat.not_le]
  rw [ofLines, List.takeWhile_eq_take_findIdx_not, hover, List.findIdx?_eq_guard_findIdx_lt,
    ← fitting]
  split
  · next hfit => simp [fitting_eq_length hfit, Option.guard]
  · next hlong =>
    have hbefore : fitting limit lines < lines.length := by
      rw [fitting, List.findIdx_lt_length]
      simpa using hlong
    simp [hbefore, Option.guard]

theorem readByRequests_eq_read (limit : Nat) (content : List UInt8) :
    readByRequests limit [] content = read limit content := by
  by_cases hlimit : limit < largestRequest
  · rw [readByRequests_eq_after hlimit, Reading.after_nil, read_of_lt hlimit]
  · rw [readByRequests_of_le (Nat.le_of_not_lt hlimit), read_of_le (Nat.le_of_not_lt hlimit)]

/-- Reading by requests comes to an end and gives the same as the reading byte by byte.  With a limit
below the largest ones, the lines are what stands between the line feeds of the content, without an
empty piece at its end, up to the first one that is longer than the limit, each as text without a
carriage return at its end; the error gives the number of that first one, counted from one.  With a
larger limit the first request cannot be made, whatever the content. -/
theorem readByRequests_eq (limit : Nat) (content : List UInt8) :
    let lines := physicalLines content
    let r := readByRequests limit [] content
    r = read limit content ∧
      r.map (fun reading => (reading.texts, reading.error)) =
        if limit < largestRequest then
          .ok ((lines.takeWhile fun line => line.length ≤ limit).map ofBytes,
            (lines.findIdx? fun line => limit < line.length).map fun i => ⟨i + 1, limit⟩)
        else .error ⟨limit + 1⟩ := by
  intro lines r
  have hr : r = read limit content := readByRequests_eq_read limit content
  refine ⟨hr, ?_⟩
  rw [hr]
  by_cases hlimit : limit < largestRequest
  · rw [read_of_lt hlimit, if_pos hlimit, Reading.ofLines_eq_takeWhile]
    rfl
  · rw [read_of_le (Nat.le_of_not_lt hlimit), if_neg hlimit]
    rfl

/-- With the largest limits not even an empty content is read. -/
theorem readByRequests_largest :
    physicalLines [] = [] ∧ readByRequests largestRequest [] [] ≠ .ok ⟨[], none⟩ := by
  refine ⟨rfl, fun h => ?_⟩
  rw [readByRequests_of_le (Nat.le_refl _)] at h
  cases h

end LineCensus.Line
