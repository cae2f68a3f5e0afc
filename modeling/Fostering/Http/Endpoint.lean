import Fostering.Http.Path

/-!
# Endpoints

The service answers at a fixed set of paths, with a fixed set of methods at each.
`Endpoint.routes` is the whole table; `Endpoint.find` looks a request up in it.
-/

namespace Fostering

/-- The methods that the service knows. -/
inductive Method where
  | get
  | post
  | put
  | patch
  | delete
  deriving DecidableEq

/-- The name of a method. -/
def Method.name : Method → String
  | get => "GET"
  | post => "POST"
  | put => "PUT"
  | patch => "PATCH"
  | delete => "DELETE"

/-- What the service can be asked to do. -/
inductive Endpoint where
  | health
  | register | login | refresh | logout
  | listUsers | getUser | updateUser | deleteUser | listRoles
  | listKeepers | createKeeper | getKeeper | updateKeeper | deleteKeeper
  | listReviews | createReview | getReview | updateReview | deleteReview
  | listSeekers | createSeeker | getSeeker | updateSeeker | deleteSeeker
  | listVets | createVet | getVet | updateVet | deleteVet
  | listPosts | createPost | getPost | updatePost | deletePost
  | listReports | createReport
  | moderationQueue | approvePost | blockPost
  | listFavourites | addFavourite | removeFavourite
  | listChats | createChat | getChat | leaveChat
  | listMessages | sendMessage | updateMessage | deleteMessage
  deriving DecidableEq

namespace Endpoint

/-- A path and what each method does there. -/
structure Route where
  pattern : List Path.Segment
  actions : List (Method × Endpoint)

/-- A pattern below the root of the interface. -/
def under (path : List Path.Segment) : List Path.Segment := [.word "api", .word "v1"] ++ path

open Path.Segment (word id)

/-- Where the service answers, and to which methods. -/
def routes : List Route := [
  ⟨[word "health"], [(.get, health)]⟩,
  ⟨under [word "auth", word "register"], [(.post, register)]⟩,
  ⟨under [word "auth", word "login"], [(.post, login)]⟩,
  ⟨under [word "auth", word "refresh"], [(.post, refresh)]⟩,
  ⟨under [word "auth", word "logout"], [(.post, logout)]⟩,
  ⟨under [word "users"], [(.get, listUsers)]⟩,
  ⟨under [word "users", id "id"],
    [(.get, getUser), (.patch, updateUser), (.delete, deleteUser)]⟩,
  ⟨under [word "users", id "id", word "roles"], [(.get, listRoles)]⟩,
  ⟨under [word "keepers"], [(.get, listKeepers), (.post, createKeeper)]⟩,
  ⟨under [word "keepers", id "id"],
    [(.get, getKeeper), (.patch, updateKeeper), (.delete, deleteKeeper)]⟩,
  ⟨under [word "keepers", id "id", word "reviews"], [(.get, listReviews), (.post, createReview)]⟩,
  ⟨under [word "reviews", id "id"],
    [(.get, getReview), (.patch, updateReview), (.delete, deleteReview)]⟩,
  ⟨under [word "seekers"], [(.get, listSeekers), (.post, createSeeker)]⟩,
  ⟨under [word "seekers", id "id"],
    [(.get, getSeeker), (.patch, updateSeeker), (.delete, deleteSeeker)]⟩,
  ⟨under [word "vets"], [(.get, listVets), (.post, createVet)]⟩,
  ⟨under [word "vets", id "id"], [(.get, getVet), (.patch, updateVet), (.delete, deleteVet)]⟩,
  ⟨under [word "posts"], [(.get, listPosts), (.post, createPost)]⟩,
  ⟨under [word "posts", id "id"],
    [(.get, getPost), (.patch, updatePost), (.delete, deletePost)]⟩,
  ⟨under [word "posts", id "id", word "reports"], [(.get, listReports), (.post, createReport)]⟩,
  ⟨under [word "moderation", word "posts"], [(.get, moderationQueue)]⟩,
  ⟨under [word "moderation", word "posts", id "id", word "approve"], [(.post, approvePost)]⟩,
  ⟨under [word "moderation", word "posts", id "id", word "block"], [(.post, blockPost)]⟩,
  ⟨under [word "favourites"], [(.get, listFavourites)]⟩,
  ⟨under [word "favourites", id "keeper_id"], [(.put, addFavourite), (.delete, removeFavourite)]⟩,
  ⟨under [word "chats"], [(.get, listChats), (.post, createChat)]⟩,
  ⟨under [word "chats", id "id"], [(.get, getChat)]⟩,
  ⟨under [word "chats", id "id", word "leave"], [(.post, leaveChat)]⟩,
  ⟨under [word "chats", id "id", word "messages"], [(.get, listMessages), (.post, sendMessage)]⟩,
  ⟨under [word "messages", id "id"], [(.patch, updateMessage), (.delete, deleteMessage)]⟩]

/-- The methods of a route, for clients that used another one. `HEAD` comes with `GET`. -/
def Route.allow (route : Route) : String :=
  ",".intercalate (route.actions.flatMap fun (method, _) =>
    if method = .get then ["GET", "HEAD"] else [method.name])

/-- What a method does on a route; `HEAD` does what `GET` does. -/
def Route.find? (route : Route) (method : String) : Option Endpoint :=
  let name := if method = "HEAD" then "GET" else method
  (route.actions.find? fun (m, _) => m.name = name).map (·.2)

/-- What the table says about a request. -/
inductive Found where
  /-- Nothing is there. -/
  | nothing
  /-- Something is there, but not for this method. -/
  | otherMethods (allow : String)
  /-- The endpoint, with the name and the text of the id in the path, if it has one. -/
  | endpoint (endpoint : Endpoint) (id? : Option (String × String))
  deriving DecidableEq

/-- Looks a method and the segments of a path up in some routes. -/
def findIn (method : String) (path : List String) : List Route → Found
  | [] => .nothing
  | route :: routes =>
    match Path.match? route.pattern path with
    | none => findIn method path routes
    | some id? =>
      match route.find? method with
      | none => .otherMethods route.allow
      | some endpoint => .endpoint endpoint id?

/-- Looks a request up. -/
def find (incoming : Incoming) : Found :=
  findIn incoming.method (Path.segments incoming.path) routes

end Endpoint

end Fostering
