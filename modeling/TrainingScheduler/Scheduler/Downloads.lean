import TrainingScheduler.Scheduler.Archives

/-!
# Downloads of output objects

`_afetch_object_chunks` tries a presigned URL before the proxy.  It yields chunks as they arrive, so
that what a failed source has yielded stays in front of what the next one yields.
-/

namespace TrainingScheduler.Zip

/-- What a `GET` yields: the chunks of its body, in front of an exception if it fails. -/
structure Transfer where
  chunks : List (List Byte)
  failed : Bool

/-- A source has the object: it yields all of its bytes, or some of them before it fails. -/
def Transfer.Serves (object : List Byte) (transfer : Transfer) : Prop :=
  if transfer.failed then transfer.chunks.flatten <+: object
  else transfer.chunks.flatten = object

section

variable {Url : Type}

/-- The loop over the URLs: the chunks that it yields, and whether it ends without an error. -/
def fetchFrom (get : Url → Transfer) : List Url → List (List Byte) × Bool
  | [] => ([], false)
  | url :: urls =>
    let yielded := (get url).chunks.filter fun chunk => !chunk.isEmpty
    if (get url).failed then (yielded ++ (fetchFrom get urls).1, (fetchFrom get urls).2)
    else (yielded, true)

theorem flatten_filter_nonempty (chunks : List (List Byte)) :
    (chunks.filter fun chunk => !chunk.isEmpty).flatten = chunks.flatten := by
  induction chunks with
  | nil => rfl
  | cons chunk chunks induction => cases chunk <;> simp [induction]

theorem fetchFrom_single (get : Url → Transfer) (url : Url) :
    (fetchFrom get [url]).1.flatten = (get url).chunks.flatten ∧
      ((fetchFrom get [url]).2 = true ↔ (get url).failed = false) := by
  cases failed : (get url).failed <;> simp [fetchFrom, failed, flatten_filter_nonempty]

private theorem fetchFrom_pair (get : Url → Transfer) (first second : Url) :
    ((fetchFrom get [first, second]).1.flatten =
      if (get first).failed then (get first).chunks.flatten ++ (get second).chunks.flatten
      else (get first).chunks.flatten) ∧
      ((fetchFrom get [first, second]).2 = true ↔
        (get first).failed = false ∨ (get second).failed = false) := by
  have rest := fetchFrom_single get second
  rw [fetchFrom]
  cases (get first).failed <;> simp [rest, flatten_filter_nonempty]

/-- The arguments of a download, with the presigned URL, if there is one, and the proxied one. -/
structure Download (Url : Type) where
  size : Option ℤ
  forcePresigned : Bool
  presigned : Option Url
  proxied : Url

/-- `_should_try_presigned_first`. -/
def Download.shouldTryPresignedFirst (threshold : ℤ) (download : Download Url) : Bool :=
  download.forcePresigned || download.size.any (threshold ≤ ·)

variable [DecidableEq Url]

def Download.urls (threshold : ℤ) (download : Download Url) : List Url :=
  let urls := if download.shouldTryPresignedFirst threshold then download.presigned.toList else []
  if urls.getLast? = some download.proxied then urls else urls ++ [download.proxied]

variable (threshold : ℤ) (download : Download Url) (get : Url → Transfer)

/-- `_afetch_object_chunks`. -/
def afetchObjectChunks : List (List Byte) × Bool :=
  fetchFrom get (download.urls threshold)

/-- The presigned URL is tried first, yields bytes and fails, and the proxy does not fail. -/
def Download.Resumed : Prop :=
  download.shouldTryPresignedFirst threshold = true ∧
    ∃ url, download.presigned = some url ∧ url ≠ download.proxied ∧ (get url).failed = true ∧
      (get url).chunks.flatten ≠ [] ∧ (get download.proxied).failed = false

theorem Download.urls_cases :
    (∃ url, download.urls threshold = [url]) ∧
        (∀ get, ¬download.Resumed threshold get) ∨
      ∃ url, download.shouldTryPresignedFirst threshold = true ∧ download.presigned = some url ∧
        url ≠ download.proxied ∧ download.urls threshold = [url, download.proxied] := by
  unfold urls Resumed
  cases first : download.shouldTryPresignedFirst threshold with
  | false => exact .inl ⟨⟨download.proxied, rfl⟩, by simp⟩
  | true =>
    cases found : download.presigned with
    | none => exact .inl ⟨⟨download.proxied, rfl⟩, by simp⟩
    | some url =>
      by_cases same : url = download.proxied
      · exact .inl ⟨⟨url, by simp [same]⟩, by simp [same]⟩
      · exact .inr ⟨url, by simp [same]⟩

/-- A download that fails aborts the archive. -/
theorem aiterEntriesAsZip_incomplete {moment : Moment} {before after : List Entry} {entry : Entry}
    (failed : entry.complete = false) :
    aiterEntriesAsZip moment (before ++ entry :: after) = none := by
  have stops (stamp : ℕ × ℕ) (writer : Writer) : writeEntry stamp writer entry = none := by
    unfold writeEntry
    cases zip64LocalHeader entry.name stamp <;> simp [failed]
  rw [aiterEntriesAsZip, List.foldlM_append]
  cases before.foldlM (writeEntry (dosTimeDate moment)) ⟨[], 0, []⟩ with
  | none => rfl
  | some writer => simp [stops]

/-- A download that ends without an error has yielded the object exactly once unless the proxy
resumes what the presigned URL has begun, and one that ends with an error aborts the archive. -/
theorem download_faithful_iff (object : List Byte) (serves : ∀ url, (get url).Serves object) :
    ((((afetchObjectChunks threshold download get).2 = true →
        (afetchObjectChunks threshold download get).1.flatten = object) ↔
      ¬download.Resumed threshold get) ∧
    ∀ (moment : Moment) (name : List Byte) (before after : List Entry),
      (afetchObjectChunks threshold download get).2 = false →
        aiterEntriesAsZip moment (before ++ ⟨name, (afetchObjectChunks threshold download get).1,
          (afetchObjectChunks threshold download get).2⟩ :: after) = none) := by
  refine ⟨?_, fun moment name before after failed => aiterEntriesAsZip_incomplete failed⟩
  have whole {url : Url} (fine : (get url).failed = false) :
      (get url).chunks.flatten = object := by
    have served := serves url
    rwa [Transfer.Serves, fine, if_neg Bool.false_ne_true] at served
  unfold afetchObjectChunks
  rcases download.urls_cases threshold with ⟨⟨url, urls⟩, once⟩ | ⟨url, first, found, other, urls⟩
  · obtain ⟨yielded, ended⟩ := fetchFrom_single get url
    rw [urls, yielded, ended]
    exact iff_of_true whole (once get)
  · obtain ⟨yielded, ended⟩ := fetchFrom_pair get url download.proxied
    rw [urls, yielded, ended]
    have resumed : download.Resumed threshold get ↔ (get url).failed = true ∧
        (get url).chunks.flatten ≠ [] ∧ (get download.proxied).failed = false := by
      simp [Download.Resumed, first, found, other]
    rw [resumed]
    cases failed : (get url).failed with
    | false => simp [whole failed]
    | true =>
      cases again : (get download.proxied).failed with
      | true => simp
      | false => simp [whole again]

end

/-- The presigned URL fails before its first byte. -/
theorem refused_presigned_faithful :
    (afetchObjectChunks 52428800 ⟨none, true, some 0, 1⟩
      fun url => if url = 0 then ⟨[], true⟩ else ⟨[[7], [8]], false⟩).1.flatten = [7, 8] :=
  (download_faithful_iff 52428800 ⟨none, true, some 0, 1⟩ _ [7, 8] (fun url => by
    by_cases first : url = 0 <;> simp [Transfer.Serves, first])).1.mpr
      (by rintro ⟨-, url, found, -, -, some_, -⟩; cases found; exact some_ rfl) rfl

/-- The presigned URL fails after its first byte, which is then yielded twice. -/
theorem resumed_download_repeats :
    (afetchObjectChunks 52428800 ⟨none, true, some 0, 1⟩
      fun url => if url = 0 then ⟨[[7]], true⟩ else ⟨[[7], [8]], false⟩) =
        ([[7], [7], [8]], true) := by
  decide

end TrainingScheduler.Zip
