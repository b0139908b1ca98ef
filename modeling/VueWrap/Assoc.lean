/-! # Ordered associations

A list of keys and values in which a key that is set again keeps its place and
takes the new value. Keys are compared by a test that the caller gives, since
keys of one value need not be written alike.
-/

namespace VueWrap.Assoc

variable {α β : Type}

/-- Sets a key: in its place if it is there, else at the end. -/
def put (same : α → α → Bool) (entries : List (α × β)) (k : α) (v : β) : List (α × β) :=
  match entries with
  | [] => [(k, v)]
  | (k', v') :: rest => if same k' k then (k', v) :: rest else (k', v') :: put same rest k v

def get? (same : α → α → Bool) (entries : List (α × β)) (k : α) : Option β :=
  match entries with
  | [] => none
  | (k', v) :: rest => if same k' k then some v else get? same rest k

/-- Sets the keys of `more` in order. -/
def update (same : α → α → Bool) (entries more : List (α × β)) : List (α × β) :=
  more.foldl (fun acc e => put same acc e.1 e.2) entries

def ofList (same : α → α → Bool) (entries : List (α × β)) : List (α × β) :=
  update same [] entries

def sameText (s t : String) : Bool := s = t

@[simp] theorem get?_nil (same : α → α → Bool) (k : α) :
    get? same ([] : List (α × β)) k = none := rfl

theorem get?_put_self {same : α → α → Bool} {k : α} (hself : same k k = true)
    (entries : List (α × β)) (v : β) : get? same (put same entries k v) k = some v := by
  induction entries with
  | nil => simp [put, get?, hself]
  | cons e rest ih =>
    obtain ⟨k', v'⟩ := e
    by_cases h : same k' k = true
    · simp [put, get?, h]
    · simpa [put, get?, h] using ih

end VueWrap.Assoc
