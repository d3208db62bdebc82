import ZeroStor.Basic
import ZeroStor.KeyIterator.Machine
import ZeroStor.KeyIterator.Channel
import ZeroStor.KeyIterator.Progress
import ZeroStor.KeyIterator.Listing
import ZeroStor.KeyIterator.Cancel
import ZeroStor.KeyIterator.Phase
import ZeroStor.Client
import ZeroStor.Client.Calls
import ZeroStor.Client.Iterator
import ZeroStor.Pipe
import ZeroStor.Routes
import ZeroStor.Zstordb
