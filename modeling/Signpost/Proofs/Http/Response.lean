import Signpost.Http.Response

/-!
# Responses after edits

However a response is edited, what it is committed to stays (`Response.Grows.after`): its status
does not change any more, and bytes are only added at the end of its body. So the edits alone say
what the response has come to: the first of them that commits gives the status, and the bytes of all
of them, in order, are the body (`Response.status_after`, `Response.body_after`). A header that no
edit names keeps its value (`Response.get?_headers_after`).
-/

namespace Signpost.Http

/-! ## Headers -/

theorem HeaderName.text_inj {a b : HeaderName} : a.text = b.text ↔ a = b := by
  refine ⟨fun h => ?_, congrArg HeaderName.text⟩
  cases a
  cases b
  cases h
  rfl

theorem HeaderValue.bytes_of_ofText? {text : String} {value : HeaderValue}
    (h : HeaderValue.ofText? text = some value) : value.bytes = Text.Utf8.encode text := by
  unfold HeaderValue.ofText? HeaderValue.ofBytes? at h
  split at h
  · cases h
    rfl
  · cases h

/-! ## Edits -/

namespace Response

namespace Edit

/-- The status that the edit commits to if nothing did before. -/
def status? : Edit → Option Status
  | .commit status => some status
  | .write _ => some .ok
  | _ => none

/-- What the edit adds to the body. -/
def bytes : Edit → Bytes
  | .write bytes => bytes
  | _ => []

/-- The header that the edit sets or removes. -/
def name? : Edit → Option HeaderName
  | .setHeader name _ | .removeHeader name => some name
  | .defaultContentType _ => some .contentType
  | _ => none

end Edit

/-- The response after edits, in order. -/
def after (r : Response) (es : List Edit) : Response := es.foldl edit r

variable {r r' r'' : Response} {es : List Edit}

@[simp] theorem after_nil (r : Response) : r.after [] = r := rfl

theorem after_cons (r : Response) (e : Edit) (es : List Edit) :
    r.after (e :: es) = (r.edit e).after es := rfl

theorem after_append (r : Response) (es es' : List Edit) :
    r.after (es ++ es') = (r.after es).after es' := List.foldl_append

/-! ## One edit -/

theorem exists_defaultContentType_eq (r : Response) (value : HeaderValue) :
    ∃ headers, r.defaultContentType value = { r with headers } := by
  unfold defaultContentType
  split
  · exact ⟨r.headers, rfl⟩
  · exact ⟨_, rfl⟩

theorem committed_edit (r : Response) (e : Edit) :
    (r.edit e).committed = (r.committed || e.status?.isSome) := by
  cases e with
  | commit status | write bytes =>
    cases h : r.committed <;> simp [edit, write, commit, Edit.status?, h]
  | setHeader | removeHeader => simp [edit, setHeader, removeHeader, Edit.status?]
  | defaultContentType value =>
    obtain ⟨headers, heq⟩ := r.exists_defaultContentType_eq value
    simp [edit, heq, Edit.status?]

theorem status_edit (r : Response) (e : Edit) :
    (r.edit e).status = if r.committed then r.status else e.status?.getD r.status := by
  cases e with
  | commit status | write bytes =>
    cases h : r.committed <;> simp [edit, write, commit, Edit.status?, h]
  | setHeader | removeHeader => simp [edit, setHeader, removeHeader, Edit.status?]
  | defaultContentType value =>
    obtain ⟨headers, heq⟩ := r.exists_defaultContentType_eq value
    simp [edit, heq, Edit.status?]

theorem body_edit (r : Response) (e : Edit) : (r.edit e).body = r.body ++ e.bytes := by
  cases e with
  | commit status | write bytes =>
    cases h : r.committed <;> simp [edit, write, commit, Edit.bytes, h]
  | setHeader | removeHeader => simp [edit, setHeader, removeHeader, Edit.bytes]
  | defaultContentType value =>
    obtain ⟨headers, heq⟩ := r.exists_defaultContentType_eq value
    simp [edit, heq, Edit.bytes]

/-- Only edits that name a header change the headers. -/
theorem headers_commit (r : Response) (status : Status) :
    (r.commit status).headers = r.headers := by
  cases h : r.committed <;> simp [commit, h]

theorem headers_write (r : Response) (bytes : Bytes) : (r.write bytes).headers = r.headers :=
  headers_commit r .ok

theorem get?_headers_edit (r : Response) {e : Edit} {name : HeaderName} (h : e.name? ≠ some name) :
    (r.edit e).headers.get? name.text = r.headers.get? name.text := by
  have htext {other : HeaderName} (hne : other ≠ name) : name.text ≠ other.text :=
    fun heq => hne (HeaderName.text_inj.mp heq.symm)
  have hset {other : HeaderName} (value : HeaderValue) (hne : other ≠ name) :
      (r.setHeader other value).headers.get? name.text = r.headers.get? name.text := by
    rw [setHeader, Dict.get?_insert, if_neg (htext hne)]
  cases e with
  | commit status => rw [edit, headers_commit]
  | write bytes => rw [edit, headers_write]
  | setHeader other value => exact hset value fun heq => h (congrArg some heq)
  | removeHeader other =>
    exact Dict.get?_erase_of_ne r.headers (htext fun heq => h (congrArg some heq))
  | defaultContentType value =>
    rw [edit, defaultContentType]
    split
    · rfl
    · exact hset value fun heq => h (congrArg some heq)

/-! ## Any number of edits -/

/-- A header that no edit names stays. -/
theorem get?_headers_after {name : HeaderName} (h : ∀ e ∈ es, e.name? ≠ some name) :
    (r.after es).headers.get? name.text = r.headers.get? name.text := by
  induction es generalizing r with
  | nil => rfl
  | cons e es ih =>
    obtain ⟨he, hes⟩ := List.forall_mem_cons.mp h
    rw [after_cons, ih hes, get?_headers_edit r he]

theorem committed_after (r : Response) (es : List Edit) :
    (r.after es).committed = (r.committed || es.any fun e => e.status?.isSome) := by
  induction es generalizing r with
  | nil => simp
  | cons e es ih => rw [after_cons, ih, committed_edit, List.any_cons, Bool.or_assoc]

/-- The first edit that commits gives the status. -/
theorem status_after (r : Response) (es : List Edit) :
    (r.after es).status =
      if r.committed then r.status else (es.findSome? Edit.status?).getD r.status := by
  induction es generalizing r with
  | nil => simp
  | cons e es ih =>
    rw [after_cons, ih, committed_edit, status_edit, List.findSome?_cons]
    cases r.committed <;> cases e.status? <;> simp

theorem body_after (r : Response) (es : List Edit) :
    (r.after es).body = r.body ++ es.flatMap Edit.bytes := by
  induction es generalizing r with
  | nil => simp
  | cons e es ih => rw [after_cons, ih, body_edit, List.flatMap_cons, List.append_assoc]

/-! ## What stays -/

/-- What the first response is committed to is kept by the second. -/
structure Grows (r r' : Response) : Prop where
  committed : r.committed = true → r'.committed = true
  status : r.committed = true → r'.status = r.status
  body : r.body <+: r'.body

theorem Grows.after (r : Response) (es : List Edit) : r.Grows (r.after es) := by
  constructor
  · intro h
    rw [committed_after, h, Bool.true_or]
  · intro h
    rw [status_after, if_pos h]
  · rw [body_after]
    exact List.prefix_append ..

/-- Only committed responses have a body. -/
def Proper (r : Response) : Prop := r.body ≠ [] → r.committed = true

theorem Proper.after (h : r.Proper) (es : List Edit) : (r.after es).Proper := by
  induction es generalizing r with
  | nil => exact h
  | cons e es ih =>
    refine ih ?_
    unfold Proper
    rw [body_edit, committed_edit, Bool.or_eq_true]
    intro hbody
    by_cases hr : r.body = []
    · refine .inr ?_
      cases e <;> simp_all [Edit.bytes, Edit.status?]
    · exact .inl (h hr)

theorem proper_empty : ({} : Response).Proper := fun h => absurd rfl h

end Response

end Signpost.Http
