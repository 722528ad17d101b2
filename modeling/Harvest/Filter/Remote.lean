import Harvest.Filter.Basic
import Harvest.Filter.Registry
import Harvest.Store.Folder
import Harvest.Text.Utf8
import Harvest.Url.Basic
/-!
# Filters that fetch and store

`fetch` puts the body of a URL in its place, `download` stores it, and `store` stores a value itself.  They work with
whatever fetches and stores, and are in a registry only once they have been installed.
-/
namespace Harvest.Filter

/-- What fetches the bodies of URLs. -/
structure Fetcher (σ : Type) where
  fetch : String → σ → Except FilterError (List UInt8) × σ

/-- What stores bytes under a path and answers with the path that they went to; it is told whether they were
fetched. -/
structure Storer (σ : Type) where
  store : List UInt8 → String → Bool → σ → Except FilterError String × σ

/-- What finds each URL's body in a fixed table of pages. -/
def Fetcher.ofPages {σ : Type} (page : String → Except FilterError (List UInt8)) : Fetcher σ :=
  ⟨fun url s => (page url, s)⟩

/-- What stores below a folder of a disk on some device, whether the bytes were fetched or not. -/
def Storer.ofFolder (dev : Store.Device) (f : Store.Folder) : Storer Store.Disk :=
  ⟨fun bytes path _ d => f.store dev bytes path d⟩

/-- A step that may fail and acts on a state. -/
abbrev Action (σ α : Type) := ExceptT FilterError (StateM σ) α

namespace Remote

variable {σ : Type}

def body (f : Fetcher σ) (url : String) : Action σ (List UInt8) := fun s => f.fetch url s

def save (st : Storer σ) (bytes : List UInt8) (path : String) (fetched : Bool) : Action σ String :=
  fun s => st.store bytes path fetched s

def fetch (f : Fetcher σ) (url : String) : Action σ String := do return Text.Utf8.toStringLossy (← body f url)

/-- Where a download goes: to the path that is given, or to the last name in the URL. -/
def downloadPath (url params : String) : Except FilterError String :=
  if !params.isEmpty then .ok params
  else match (Url.parse? url).bind Url.fileName? with
    | some name => .ok name
    | none => .error (.invalidParams (.noFileName url))

def download (f : Fetcher σ) (st : Storer σ) (params url : String) : Action σ String := do
  let path ← (fun s => (downloadPath url params, s) : Action σ String)
  save st (← body f url) path true

/-- Stores a value's strings, one after the other. -/
def store (st : Storer σ) (value : Value) (params : String) : Action σ Value :=
  if params.isEmpty then throw (.invalidParams .noStorePath)
  else value.mapStringsM fun text => save st (Text.Utf8.ofString text) params false

def filters (f : Fetcher σ) (st : Storer σ) : List (Filter σ) := [
  ⟨"fetch", "Replace a URL with the body it points to", "fetch", fun value _ s => value.mapStringsM (fetch f) s⟩,
  ⟨"download", "Download the URL and store it; the value becomes the stored path", "download(images/a.png)",
    fun value params s => value.mapStringsM (download f st params) s⟩,
  ⟨"store", "Store the value as a file; the value becomes the stored path", "store(pages/a.html)",
    fun value params s => store st value params s⟩]

/-- Registers filters one after the other, up to the first whose name is taken. -/
def registerAll (r : Registry σ) : List (Filter σ) → Registry σ × Except RegistryError Unit
  | [] => (r, .ok ())
  | f :: fs =>
    match r.register f with
    | .ok r => registerAll r fs
    | .error e => (r, .error e)

/-- Adds the three filters to a registry. -/
def install (r : Registry σ) (f : Fetcher σ) (st : Storer σ) : Registry σ × Except RegistryError Unit :=
  registerAll r (filters f st)

end Remote

end Harvest.Filter
