import Fostering.Chat
import Fostering.Keeper
import Fostering.Json.Message
import Fostering.Post
import Fostering.Review
import Fostering.Seeker
import Fostering.Session
import Fostering.Text.Blank
import Fostering.User
import Fostering.Vet

/-!
# Reading requests

Every request is an object of a known shape with rules of its own. `Request.read` reads one from the
bytes of a body; a body of nothing but blanks is the empty request, which is still held to the rules.
-/

namespace Fostering

/-- A kind of request. -/
class Request (ρ : Type) where
  shape : Json.Shape
  ofRow : Json.Row shape.fields → ρ
  violations : ρ → List Violation

namespace Request

/-- The request in which nothing was filled in. -/
def empty (ρ : Type) [Request ρ] : ρ := ofRow (Json.Row.empty _)

/-- Reads a request from the bytes of a body. -/
def read (ρ : Type) [Request ρ] (body : Bytes) : Except Json.Fault ρ :=
  if body.all Text.isAsciiBlank then .ok (empty ρ)
  else (Json.Shape.read (shape ρ) body).map ofRow

instance : Request RegisterUser :=
  ⟨RegisterUser.shape, RegisterUser.ofRow, RegisterUser.violations⟩

instance : Request UpdateUser := ⟨UpdateUser.shape, UpdateUser.ofRow, UpdateUser.violations⟩

instance : Request CreateKeeper :=
  ⟨CreateKeeper.shape, CreateKeeper.ofRow, CreateKeeper.violations⟩

instance : Request UpdateKeeper :=
  ⟨UpdateKeeper.shape, UpdateKeeper.ofRow, UpdateKeeper.violations⟩

instance : Request CreateSeeker :=
  ⟨CreateSeeker.shape, CreateSeeker.ofRow, CreateSeeker.violations⟩

instance : Request UpdateSeeker :=
  ⟨UpdateSeeker.shape, UpdateSeeker.ofRow, UpdateSeeker.violations⟩

instance : Request CreateVet := ⟨CreateVet.shape, CreateVet.ofRow, CreateVet.violations⟩

instance : Request UpdateVet := ⟨UpdateVet.shape, UpdateVet.ofRow, UpdateVet.violations⟩

instance : Request CreatePost := ⟨CreatePost.shape, CreatePost.ofRow, CreatePost.violations⟩

instance : Request UpdatePost := ⟨UpdatePost.shape, UpdatePost.ofRow, UpdatePost.violations⟩

instance : Request CreateReport :=
  ⟨CreateReport.shape, CreateReport.ofRow, CreateReport.violations⟩

instance : Request CreateReview :=
  ⟨CreateReview.shape, CreateReview.ofRow, CreateReview.violations⟩

instance : Request UpdateReview :=
  ⟨UpdateReview.shape, UpdateReview.ofRow, UpdateReview.violations⟩

instance : Request CreateChat := ⟨CreateChat.shape, CreateChat.ofRow, CreateChat.violations⟩

instance : Request SendMessage := ⟨SendMessage.shape, SendMessage.ofRow, SendMessage.violations⟩

instance : Request UpdateMessage :=
  ⟨UpdateMessage.shape, UpdateMessage.ofRow, UpdateMessage.violations⟩

instance : Request LoginRequest :=
  ⟨LoginRequest.shape, LoginRequest.ofRow, LoginRequest.violations⟩

instance : Request RefreshRequest :=
  ⟨RefreshRequest.shape, RefreshRequest.ofRow, RefreshRequest.violations⟩

instance : Request LogoutRequest :=
  ⟨LogoutRequest.shape, LogoutRequest.ofRow, LogoutRequest.violations⟩

end Request

end Fostering
