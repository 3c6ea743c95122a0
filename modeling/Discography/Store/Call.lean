import Discography.Album.Basic

/-!
# Storage calls

What can be asked of a storage of albums, and the type of each answer. The album of an id and the
albums of a window are answered as options: a sound storage fails where it has none, and one that
answers nothing is broken.
-/

set_option autoImplicit false

namespace Discography.Store

/-- A call of the storage. -/
inductive Call where
  | insert (album : Album)
  | findAll (offset limit : Int)
  | findOne (id : AlbumId)
  | update (album : Album)
  | remove (id : AlbumId)
  deriving DecidableEq, Repr

namespace Call

/-- What a call is answered by when it succeeds. -/
abbrev Answer : Call → Type
  | .findAll _ _ => Option (List Album)
  | .findOne _ => Option Album
  | .insert _ | .update _ | .remove _ => Unit

/-- What a call does, in words. -/
def description : Call → String
  | .insert _ => "inserting album into the storage"
  | .findAll _ _ => "finding albums in the storage"
  | .findOne _ => "finding one album in the storage"
  | .update _ => "updating album in the storage"
  | .remove _ => "removing album from the storage"

/-- The name of a call. -/
def name : Call → String
  | .insert _ => "insert"
  | .findAll _ _ => "find_all"
  | .findOne _ => "find_one"
  | .update _ => "update"
  | .remove _ => "remove"

end Call

end Discography.Store
