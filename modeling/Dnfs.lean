import Dnfs.Memory.Words
import Dnfs.Xdr.Stream
import Dnfs.Xdr.Laws
import Dnfs.Xdr.Union
import Dnfs.Nfs.Types
import Dnfs.Nfs.Codec
import Dnfs.Nfs.Messages
import Dnfs.Nfs.RoundTrip
import Dnfs.File.Share
import Dnfs.File.ShareSafety
import Dnfs.File.FsalHandle
import Dnfs.Run.Locking
import Dnfs.File.IoWork
import Dnfs.File.Locks
import Dnfs.Meta.HandlePool
import Dnfs.Meta.Lifetime
import Dnfs.Mnt.Lists
import Dnfs.Nfs.Accepts
import Dnfs.Nfs.AllOrNothing
import Dnfs.Nfs.Changes
import Dnfs.Nfs.Client
import Dnfs.Nfs.Confinement
import Dnfs.Nfs.Consistency
import Dnfs.Nfs.Descriptors
import Dnfs.Nfs.Durability
import Dnfs.Nfs.Enumeration
import Dnfs.Nfs.Holdings
import Dnfs.Nfs.Honesty
import Dnfs.Nfs.Progress
import Dnfs.Nfs.Budget
import Dnfs.Nfs.ReadAll
import Dnfs.Nfs.ReadBack
import Dnfs.Nfs.Exclusive
import Dnfs.Nfs.Gates
import Dnfs.Nfs.Guarded
import Dnfs.Nfs.HandOut
import Dnfs.Nfs.Handles
import Dnfs.Nfs.Symlinks
import Dnfs.Nfs.Verifier
import Dnfs.Nfs.WriteTruth
import Dnfs.Nfs.WriteBack
import Dnfs.Rpc.Conservation
import Dnfs.Rpc.Answers
import Dnfs.Cache.LruRefines
import Dnfs.Cache.LruSound
import Dnfs.Cache.BinLogLaws
import Dnfs.Cache.DiskTasks
import Dnfs.Base.Loading
import Dnfs.Volume.IdMapper
import Dnfs.Nfs.Cookies
import Dnfs.Meta.ConcurrentRelease
import Dnfs.Log.ConfigErrors
import Dnfs.Log.FileNumberLaws
import Dnfs.Log.LastConfig
import Dnfs.Log.Locks
import Dnfs.Log.LogHandles
import Dnfs.Log.SizeLimits
import Dnfs.Log.SizeRotation
import Dnfs.Log.SizeRetention
import Dnfs.Log.TimeRotation
import Dnfs.Log.ThreadOrder
import Dnfs.Log.Throwing
import Dnfs.Log.Splitting
import Dnfs.Log.MessageText
import Dnfs.Log.ThreadNames
import Dnfs.Log.Formatters
import Dnfs.Log.Copying
import Dnfs.Log.RejectedConfig
import Dnfs.Log.Formatting
